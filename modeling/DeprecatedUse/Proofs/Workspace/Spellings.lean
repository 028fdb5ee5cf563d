import DeprecatedUse.Proofs.Text.Splitting
import DeprecatedUse.Proofs.Workspace.Files

/-!
This module contains paths that are written in several ways. Those with the same components lead to
the same place, if they lead anywhere: a slash behind the name of a file leads nowhere. What is
found below them is written in several ways too.
-/

namespace DeprecatedUse

namespace Path

/-! What a path begins with. -/

theorem dissect_of_root {p : Path} {rest : Name} (h : p.bytes = slash :: rest)
    : p.dissect = (some .root, Text.splitOn slash rest) := by
  rw [dissect, h, if_pos ⟨rest, rfl⟩, List.tail_cons]

theorem dissect_of_dot {p : Path} (h : p.bytes = [dot])
    : p.dissect = (some .here, [[]]) := by
  rw [dissect, h, if_neg (by decide), if_pos rfl]

theorem dissect_of_here {p : Path} {rest : Name} (h : p.bytes = dot :: slash :: rest)
    : p.dissect = (some .here, Text.splitOn slash (slash :: rest)) := by
  have hroot : ¬ [slash] <+: dot :: slash :: rest := fun h =>
    absurd (List.cons_prefix_cons.1 h).1 (by decide)
  rw [dissect, h, if_neg hroot, if_neg (by simp), if_pos ⟨rest, rfl⟩, List.tail_cons]

/--
The path begins with a name, with two dots, or not at all.
-/
structure IsPlain (p : Path) : Prop where
  not_root : ¬ [slash] <+: p.bytes
  not_dot : p.bytes ≠ [dot]
  not_here : ¬ [dot, slash] <+: p.bytes

theorem IsPlain.dissect_eq {p : Path} (h : p.IsPlain)
    : p.dissect = (none, Text.splitOn slash p.bytes) := by
  rw [dissect, if_neg h.not_root, if_neg h.not_dot, if_neg h.not_here]

theorem dissect_cases (p : Path)
    : (∃ rest, p.bytes = slash :: rest) ∨ p.bytes = [dot]
        ∨ (∃ rest, p.bytes = dot :: slash :: rest) ∨ p.IsPlain := by
  by_cases hroot : [slash] <+: p.bytes
  · obtain ⟨rest, hrest⟩ := hroot
    exact .inl ⟨rest, hrest.symm⟩
  · by_cases hdot : p.bytes = [dot]
    · exact .inr (.inl hdot)
    · by_cases hhere : [dot, slash] <+: p.bytes
      · obtain ⟨rest, hrest⟩ := hhere
        exact .inr (.inr (.inl ⟨rest, hrest.symm⟩))
      · exact .inr (.inr (.inr ⟨hroot, hdot, hhere⟩))

theorem dissect_start (p : Path)
    : p.dissect.1 = none ∨ p.dissect.1 = some .root ∨ p.dissect.1 = some .here := by
  obtain ⟨rest, h⟩ | h | ⟨rest, h⟩ | h := p.dissect_cases
  · exact .inr (.inl (by rw [dissect_of_root h]))
  · exact .inr (.inr (by rw [dissect_of_dot h]))
  · exact .inr (.inr (by rw [dissect_of_here h]))
  · exact .inl (by rw [h.dissect_eq])

/-! The parts of a path. -/

def parts (p : Path) : List Name :=
  (Text.splitOn slash p.bytes).filter (!isIdle ·)

theorem filter_dissect (p : Path) : p.dissect.2.filter (!isIdle ·) = p.parts := by
  rw [parts]
  obtain ⟨rest, h⟩ | h | ⟨rest, h⟩ | h := p.dissect_cases
  · rw [dissect_of_root h, h, Text.splitOn, if_pos rfl]
    rfl
  · rw [dissect_of_dot h, h]
    rfl
  · rw [dissect_of_here h, h]
    rfl
  · rw [h.dissect_eq]

theorem components_eq (p : Path)
    : p.components = p.dissect.1.toList ++ p.parts.map componentOf := by
  rw [← filter_dissect]
  rfl

theorem IsPlain.append {p q : Path} (h : p.IsPlain) (hp : p.bytes ≠ []) {rest : Name}
    (hq : q.bytes = p.bytes ++ slash :: rest) : q.IsPlain := by
  obtain ⟨hroot, hdot, hhere⟩ := h
  obtain ⟨c, cs, hcs⟩ := List.exists_cons_of_ne_nil hp
  rw [hcs] at hroot hdot hhere hq
  have hslash : slash ≠ c := fun hc => hroot (hc ▸ List.prefix_append [slash] cs)
  constructor <;> rw [hq, List.cons_append]
  · exact fun hq => hslash (List.cons_prefix_cons.1 hq).1
  · simp
  · intro hq
    obtain ⟨hc, hq⟩ := List.cons_prefix_cons.1 hq
    -- Two bytes show what a path begins with, and a lone dot is followed by a slash.
    cases cs with
    | nil => exact hdot (hc ▸ rfl)
    | cons d cs =>
      obtain ⟨hd, -⟩ := List.cons_prefix_cons.1 hq
      rw [← hc, ← hd] at hhere
      exact hhere (List.prefix_append [dot, slash] cs)

theorem dissect_start_append {p q : Path} (hp : p.bytes ≠ []) {rest : Name}
    (hq : q.bytes = p.bytes ++ slash :: rest) : q.dissect.1 = p.dissect.1 := by
  obtain ⟨front, h⟩ | h | ⟨front, h⟩ | h := p.dissect_cases
  · rw [h, List.cons_append] at hq
    rw [dissect_of_root h, dissect_of_root hq]
  · rw [h, List.singleton_append] at hq
    rw [dissect_of_dot h, dissect_of_here hq]
  · rw [h, List.cons_append, List.cons_append] at hq
    rw [dissect_of_here h, dissect_of_here hq]
  · rw [h.dissect_eq, (h.append hp hq).dissect_eq]

def Component.part? : Component → Option Name
  | .root | .here => none
  | .parent => some [dot, dot]
  | .name bytes => some bytes

theorem part?_componentOf (part : Name) : (componentOf part).part? = some part := by
  rw [componentOf]
  split
  · next h => rw [h, Component.part?]
  · rw [Component.part?]

theorem filterMap_part?_components (p : Path)
    : p.components.filterMap Component.part? = p.parts := by
  have hstart : p.dissect.1.toList.filterMap Component.part? = [] := by
    obtain h | h | h := p.dissect_start <;> rw [h] <;> rfl
  rw [components_eq, List.filterMap_append, hstart, List.nil_append, List.filterMap_map]
  exact (List.filterMap_congr fun part _ => part?_componentOf part).trans List.filterMap_some

theorem parts_eq_of_same {p q : Path} (h : p.same q = true) : p.parts = q.parts := by
  rw [← filterMap_part?_components, ← filterMap_part?_components, same_iff.1 h]

theorem find?_part?_components (p : Path)
    : p.components.find? (·.part?.isNone) = p.dissect.1 := by
  have hparts : (p.parts.map componentOf).find? (·.part?.isNone) = none := by
    rw [List.find?_eq_none]
    intro c hc
    obtain ⟨part, -, rfl⟩ := List.mem_map.1 hc
    rw [part?_componentOf]
    exact Bool.false_ne_true
  rw [components_eq, List.find?_append, hparts, Option.or_none]
  obtain h | h | h := p.dissect_start <;> rw [h] <;> rfl

theorem dissect_start_of_same {p q : Path} (h : p.same q = true)
    : p.dissect.1 = q.dissect.1 := by
  rw [← find?_part?_components, ← find?_part?_components, same_iff.1 h]

theorem isAbsolute_iff {p : Path} : p.isAbsolute = true ↔ p.dissect.1 = some .root := by
  rw [isAbsolute, beq_iff_eq, List.head?_eq_some_iff]
  constructor
  · rintro ⟨rest, hrest⟩
    rw [dissect_of_root hrest]
  · intro h
    obtain hroot | hdot | ⟨rest, hhere⟩ | hplain := p.dissect_cases
    · exact hroot
    · rw [dissect_of_dot hdot] at h
      cases h
    · rw [dissect_of_here hhere] at h
      cases h
    · rw [hplain.dissect_eq] at h
      cases h

theorem isAbsolute_eq_of_same {p q : Path} (h : p.same q = true)
    : p.isAbsolute = q.isAbsolute := by
  rw [Bool.eq_iff_iff, isAbsolute_iff, isAbsolute_iff, dissect_start_of_same h]

theorem bytes_eq_nil_iff {p : Path} : p.bytes = [] ↔ p.components = [] := by
  rw [components_eq, List.append_eq_nil_iff, List.map_eq_nil_iff]
  constructor
  · intro h
    rw [parts, dissect, h]
    exact ⟨rfl, rfl⟩
  · rintro ⟨hstart, hparts⟩
    obtain ⟨rest, h⟩ | h | ⟨rest, h⟩ | ⟨hroot, hdot, hhere⟩ := p.dissect_cases
    · rw [dissect_of_root h] at hstart
      cases hstart
    · rw [dissect_of_dot h] at hstart
      cases hstart
    · rw [dissect_of_here h] at hstart
      cases hstart
    · -- The first part is idle only if it is empty or a dot, and both are starts then.
      rw [parts] at hparts
      generalize p.bytes = cs at *
      cases cs with
      | nil => rfl
      | cons c cs =>
        have hc : c ≠ slash := by
          rintro rfl
          exact hroot ⟨cs, rfl⟩
        rw [Text.splitOn, if_neg hc] at hparts
        cases hsplit : Text.splitOn slash cs with
        | nil => exact absurd hsplit (Text.splitOn_ne_nil _ _)
        | cons part parts =>
          rw [hsplit] at hparts
          have hidle : isIdle (c :: part) = true := by
            simpa using List.filter_eq_nil_iff.1 hparts (c :: part) List.mem_cons_self
          obtain ⟨rfl, rfl⟩ : c = dot ∧ part = [] := by simpa [isIdle] using hidle
          cases cs with
          | nil => exact absurd rfl hdot
          | cons d cs =>
            rw [Text.splitOn] at hsplit
            split at hsplit
            · next hd => exact absurd ⟨cs, hd ▸ rfl⟩ hhere
            · split at hsplit <;> cases hsplit

theorem mem_parts_of_mem {p : Path} {c : UInt8} (h : c ∈ p.bytes) (hslash : c ≠ slash)
    (hdot : c ≠ dot) : ∃ part ∈ p.parts, c ∈ part := by
  have hsplit : c = slash ∨ ∃ part ∈ Text.splitOn slash p.bytes, c ∈ part :=
    Text.mem_splitOn_of_mem h
  obtain hc | ⟨part, hpart, hmem⟩ := hsplit
  · exact absurd hc hslash
  · refine ⟨part, List.mem_filter.2 ⟨hpart, ?_⟩, hmem⟩
    rw [Bool.not_eq_true', isIdle, Bool.or_eq_false_iff, beq_eq_false_iff_ne,
      beq_eq_false_iff_ne]
    constructor
    · rintro rfl
      cases hmem
    · rintro rfl
      exact hdot (List.mem_singleton.1 hmem)

/-! Paths that are joined. -/

theorem bytes_join {p q : Path} (hp : p.bytes ≠ []) (hq : q.isAbsolute = false)
    : (p.join q).bytes = p.bytes ++ slash :: q.bytes
      ∨ ∃ cs, p.bytes = cs ++ [slash] ∧ (p.join q).bytes = cs ++ slash :: q.bytes := by
  rw [join, hq, Bool.false_or, if_neg (by rwa [decide_eq_true_eq])]
  split
  · next hslash =>
    obtain ⟨cs, hcs⟩ := List.getLast?_eq_some_iff.1 hslash
    right
    refine ⟨cs, hcs, ?_⟩
    rw [hcs, List.append_assoc]
    rfl
  · exact .inl rfl

theorem components_join {p q : Path} (hp : p.bytes ≠ []) (hq : q.isAbsolute = false)
    : (p.join q).components = p.components ++ q.parts.map componentOf := by
  have hjoin : (p.join q).dissect.1 = p.dissect.1 ∧ (p.join q).parts = p.parts ++ q.parts := by
    obtain h | ⟨cs, hcs, h⟩ := bytes_join hp hq
    · refine ⟨dissect_start_append hp h, ?_⟩
      rw [parts, parts, parts, h, Text.splitOn_append, List.filter_append]
    · constructor
      · by_cases hnil : cs = []
        · rw [dissect, dissect, h, hcs, hnil]
          rfl
        · have hstart : (Path.mk cs).bytes ≠ [] := hnil
          exact (dissect_start_append hstart h).trans (dissect_start_append hstart hcs).symm
      · rw [parts, parts, parts, h, hcs, Text.splitOn_append, Text.splitOn_append,
          List.filter_append, List.filter_append, List.append_assoc]
        rfl
  rw [components_eq, components_eq, hjoin.1, hjoin.2, List.map_append, List.append_assoc]

theorem same_join {p p' : Path} (h : p.same p' = true) (q : Path)
    : (p.join q).same (p'.join q) = true := by
  by_cases hq : q.isAbsolute = true
  · rw [join, join, hq, Bool.true_or, Bool.true_or, if_pos rfl, if_pos rfl]
    exact same_refl q
  · rw [Bool.not_eq_true] at hq
    have hempty : p.bytes = [] ↔ p'.bytes = [] := by
      rw [bytes_eq_nil_iff, bytes_eq_nil_iff, same_iff.1 h]
    by_cases hp : p.bytes = []
    · rw [join, join, hp, hempty.1 hp, hq]
      exact same_refl q
    · rw [same_iff, components_join hp hq, components_join (mt hempty.2 hp) hq, same_iff.1 h]

theorem same_foldl_join {p p' : Path} (h : p.same p' = true) (names : List Name)
    : (names.foldl (fun path name => path.join ⟨name⟩) p).same
        (names.foldl (fun path name => path.join ⟨name⟩) p') = true := by
  induction names generalizing p p' with
  | nil => exact h
  | cons name names ih => exact ih (same_join h ⟨name⟩)

theorem extension?_eq_of_same {p q : Path} (h : p.same q = true)
    : p.extension? = q.extension? := by
  rw [extension?, extension?, fileName?, fileName?, same_iff.1 h]

theorem relativeTo_eq_of_same (base : Path) {p q : Path} (h : p.same q = true)
    : base.relativeTo p = base.relativeTo q := by
  rw [relativeTo, relativeTo, same_iff.1 h]

end Path

namespace Place

/-! Paths that are the same and lead somewhere. -/

section

variable {t : FileTree}

theorem step_ok {names found : List Name} {part : Name}
    (h : step t names part = .ok found) : t.node? names = some .folder := by
  rw [step] at h
  split at h
  · cases h
  · cases h
  · cases h
  · cases h
  · next hnode => exact hnode

theorem step_idle {names : List Name} {part : Name} (h : Path.isIdle part = true)
    (hnode : t.node? names = some .folder) : step t names part = .ok names := by
  rw [step, hnode]
  dsimp only
  rw [if_pos h]

theorem foldlM_filter {parts : List Name} {names found : List Name}
    (h : parts.foldlM (step t) names = .ok found)
    : (parts.filter (!Path.isIdle ·)).foldlM (step t) names = .ok found := by
  induction parts generalizing names with
  | nil => exact h
  | cons part parts ih =>
    rw [List.foldlM_cons] at h
    cases hstep : step t names part with
    | error e =>
      rw [hstep] at h
      cases h
    | ok next =>
      rw [hstep] at h
      by_cases hidle : Path.isIdle part = true
      · rw [step_idle hidle (step_ok hstep)] at hstep
        cases hstep
        rw [List.filter_cons_of_neg (by rw [hidle]; exact Bool.false_ne_true)]
        exact ih h
      · rw [List.filter_cons_of_pos (by simpa using hidle), List.foldlM_cons, hstep]
        exact ih h

theorem folder_of_foldlM {parts : List Name} {names found : List Name}
    (h : parts.foldlM (step t) names = .ok found) (hfound : t.node? found = some .folder)
    : t.node? names = some .folder := by
  cases parts with
  | nil =>
    cases h
    exact hfound
  | cons part parts =>
    rw [List.foldlM_cons] at h
    cases hstep : step t names part with
    | error e =>
      rw [hstep] at h
      cases h
    | ok next => exact step_ok hstep

theorem foldlM_of_filter {parts : List Name} {names found : List Name}
    (h : (parts.filter (!Path.isIdle ·)).foldlM (step t) names = .ok found)
    (hfound : t.node? found = some .folder) : parts.foldlM (step t) names = .ok found := by
  induction parts generalizing names with
  | nil => exact h
  | cons part parts ih =>
    rw [List.foldlM_cons]
    by_cases hidle : Path.isIdle part = true
    · rw [List.filter_cons_of_neg (by rw [hidle]; exact Bool.false_ne_true)] at h
      rw [step_idle hidle (folder_of_foldlM h hfound)]
      exact ih h
    · rw [List.filter_cons_of_pos (by simpa using hidle), List.foldlM_cons] at h
      cases hstep : step t names part with
      | error e =>
        rw [hstep] at h
        cases h
      | ok next =>
        rw [hstep] at h
        exact ih h

end

variable {here : Place} {p q : Path}

theorem locate_ok {names : List Name} (h : here.locate p = .ok names)
    : p.parts.foldlM (step here.tree) (if p.isAbsolute then [] else here.folder) = .ok names := by
  rw [locate] at h
  split at h
  · cases h
  · split at h
    · cases h
    · exact foldlM_filter h

theorem locate_eq_of_same (hsame : p.same q = true) {names names' : List Name}
    (hp : here.locate p = .ok names) (hq : here.locate q = .ok names') : names = names' := by
  have hp := locate_ok hp
  rw [Path.parts_eq_of_same hsame, Path.isAbsolute_eq_of_same hsame, locate_ok hq] at hp
  exact (Except.ok.inj hp).symm

theorem find_ok {names : List Name} {node : FileTree.Node} (h : here.find p = .ok (names, node))
    : here.locate p = .ok names := by
  rw [find] at h
  cases hlocate : here.locate p with
  | error e =>
    rw [hlocate] at h
    cases h
  | ok found =>
    rw [hlocate] at h
    dsimp only [bind, Except.bind] at h
    split at h
    · cases h
    · cases h
      rfl

theorem find_of_locate {names : List Name} {node : FileTree.Node}
    (h : here.locate p = .ok names) (hnode : here.tree.node? names = some node)
    : here.find p = .ok (names, node) := by
  rw [find, h]
  dsimp only [bind, Except.bind]
  rw [hnode]
  rfl

theorem hasPath_iff : here.hasPath p = true ↔ ∃ names node, here.find p = .ok (names, node) := by
  rw [hasPath]
  cases here.find p with
  | error e =>
    constructor
    · intro h
      cases h
    · rintro ⟨names, node, h⟩
      cases h
  | ok found => exact ⟨fun _ => ⟨found.1, found.2, rfl⟩, fun _ => rfl⟩

def LeadsToFolder (here : Place) (p : Path) : Prop :=
  (here.find p).map Prod.snd = .ok .folder

instance (here : Place) (p : Path) : Decidable (here.LeadsToFolder p) :=
  inferInstanceAs (Decidable ((here.find p).map Prod.snd = .ok .folder))

theorem leadsToFolder_iff : here.LeadsToFolder p ↔ ∃ names, here.find p = .ok (names, .folder) := by
  rw [LeadsToFolder]
  cases here.find p with
  | error e =>
    constructor
    · intro h
      cases h
    · rintro ⟨names, h⟩
      cases h
  | ok found =>
    obtain ⟨names, node⟩ := found
    constructor
    · intro h
      cases h
      exact ⟨names, rfl⟩
    · rintro ⟨names', h⟩
      cases h
      rfl

theorem find_eq_of_hasPath (hsame : p.same q = true) (hp : here.hasPath p = true)
    (hq : here.hasPath q = true) : here.find p = here.find q := by
  obtain ⟨names, node, hp⟩ := hasPath_iff.1 hp
  obtain ⟨names', node', hq⟩ := hasPath_iff.1 hq
  have hnames := locate_eq_of_same hsame (find_ok hp) (find_ok hq)
  refine find_eq_of_same ?_
  rw [Same, hp, hq, Except.map, Except.map, hnames]

theorem find_folder_of_same (hsame : p.same q = true) {names : List Name}
    (h : here.find p = .ok (names, .folder)) : here.find q = .ok (names, .folder) := by
  have hfolder := node?_of_find h
  have hlocate := find_ok h
  refine find_of_locate ?_ hfolder
  have hfold := locate_ok hlocate
  rw [Path.parts_eq_of_same hsame, Path.isAbsolute_eq_of_same hsame] at hfold
  rw [locate] at hlocate ⊢
  split at hlocate
  · cases hlocate
  · next hp =>
    have hq : q.bytes ≠ [] := by
      rwa [Ne, Path.bytes_eq_nil_iff, ← Path.same_iff.1 hsame, ← Path.bytes_eq_nil_iff]
    rw [if_neg hq]
    split at hlocate
    · cases hlocate
    · next hnul =>
      rw [if_neg, foldlM_of_filter hfold hfolder]
      -- A byte that no path can hold would stand in a part, and both have the same parts.
      rw [List.contains_iff_mem] at hnul ⊢
      intro hmem
      obtain ⟨part, hpart, hmem⟩ := Path.mem_parts_of_mem hmem (by decide) (by decide)
      rw [← Path.parts_eq_of_same hsame] at hpart
      exact hnul (Text.mem_of_mem_splitOn (List.mem_of_mem_filter hpart) hmem)

end Place

end DeprecatedUse
