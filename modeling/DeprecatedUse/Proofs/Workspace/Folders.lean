import DeprecatedUse.Proofs.Workspace.Spellings

/-!
This module contains the folder that a path stands in, and what is found from a folder. A path that
leads to a file leads through its folder, and what a path leads to as seen from a folder is told by
the place of the folder and not by how the folder is written.
-/

namespace DeprecatedUse

theorem Text.isPrefix_join {α : Type} {parts more : List (List α)} {sep : List α}
    (h : parts <+: more) : join sep parts <+: join sep more := by
  obtain ⟨rest, rfl⟩ := h
  cases parts with
  | nil => exact List.nil_prefix
  | cons part parts =>
    rw [List.cons_append, join_cons, join_cons, List.flatMap_append, ← List.append_assoc]
    exact List.prefix_append _ _

namespace Path

/-! The folder of a path. -/

def startBytes (start : Option Component) : Name :=
  (start.map Component.bytes).getD []

@[simp]
theorem startBytes_none : startBytes none = [] := by
  decide

@[simp]
theorem startBytes_root : startBytes (some .root) = [slash] := by
  decide

@[simp]
theorem startBytes_here : startBytes (some .here) = [dot] := by
  decide

/-! Paths that are put together from their parts. -/

theorem bytes_dissect (p : Path)
    : p.bytes = startBytes p.dissect.1 ++ Text.join [slash] p.dissect.2 := by
  obtain ⟨rest, h⟩ | h | ⟨rest, h⟩ | h := p.dissect_cases
  · rw [dissect_of_root h, h, Text.join_splitOn, startBytes_root]
    rfl
  · rw [dissect_of_dot h, h, startBytes_here]
    rfl
  · rw [dissect_of_here h, h, Text.join_splitOn, startBytes_here]
    rfl
  · rw [h.dissect_eq, Text.join_splitOn, startBytes_none]
    rfl

theorem slash_not_mem_dissect {p : Path} {part : Name} (h : part ∈ p.dissect.2)
    : slash ∉ part := by
  obtain ⟨rest, hp⟩ | hp | ⟨rest, hp⟩ | hp := p.dissect_cases
  · rw [dissect_of_root hp] at h
    exact Text.not_mem_of_mem_splitOn h
  · rw [dissect_of_dot hp, List.mem_singleton] at h
    rw [h]
    exact List.not_mem_nil
  · rw [dissect_of_here hp] at h
    exact Text.not_mem_of_mem_splitOn h
  · rw [hp.dissect_eq] at h
    exact Text.not_mem_of_mem_splitOn h

theorem slash_not_mem_of_isPrefix {p : Path} {parts : List Name} (h : parts <+: p.dissect.2)
    : ∀ part ∈ parts, slash ∉ part :=
  fun _ hpart => slash_not_mem_dissect (h.mem hpart)

def withParts (p : Path) (parts : List Name) : Path :=
  ⟨startBytes p.dissect.1 ++ Text.join [slash] parts⟩

theorem bytes_withParts (p : Path) (parts : List Name)
    : (p.withParts parts).bytes = startBytes p.dissect.1 ++ Text.join [slash] parts :=
  rfl

theorem isPrefix_withParts {p : Path} {parts : List Name} (h : parts <+: p.dissect.2)
    : (p.withParts parts).bytes <+: p.bytes := by
  rw [bytes_withParts, bytes_dissect p, List.prefix_append_right_inj]
  exact Text.isPrefix_join h

theorem filter_splitOn_join {parts : List Name} (h : ∀ part ∈ parts, slash ∉ part)
    : (Text.splitOn slash (Text.join [slash] parts)).filter (!isIdle ·)
        = parts.filter (!isIdle ·) := by
  cases parts with
  | nil => rfl
  | cons part parts => rw [Text.splitOn_join h]

theorem dissect_of_dot_join {p : Path} {parts : List Name}
    (hslash : ∀ part ∈ [] :: parts, slash ∉ part)
    (htext : p.bytes = dot :: Text.join [slash] ([] :: parts))
    : p.dissect = (some .here, [] :: parts) := by
  cases parts with
  | nil => exact dissect_of_dot htext
  | cons part parts =>
    have hsplit := Text.splitOn_join hslash
    rw [Text.join_cons, List.flatMap_cons, List.nil_append] at htext hsplit
    rw [dissect_of_here htext, ← hsplit]
    rfl

theorem dissect_withParts_of_here {p : Path} {parts all : List Name}
    (hp : p.dissect = (some .here, [] :: all)) (h : parts <+: p.dissect.2)
    : (p.withParts parts).dissect.1 = some .here
        ∧ (p.withParts parts).dissect.2.filter (!isIdle ·) = parts.filter (!isIdle ·) := by
  have hslash := slash_not_mem_of_isPrefix h
  have htext := bytes_withParts p parts
  rw [hp, startBytes_here] at htext
  rw [hp] at h
  cases parts with
  | nil =>
    rw [dissect_of_dot htext]
    exact ⟨rfl, rfl⟩
  | cons part parts =>
    obtain ⟨rfl, -⟩ := List.cons_prefix_cons.1 h
    rw [dissect_of_dot_join hslash htext]
    exact ⟨rfl, rfl⟩

theorem isPlain_withParts {p : Path} (hp : p.IsPlain) {parts : List Name}
    (h : parts <+: p.dissect.2) : (p.withParts parts).IsPlain := by
  have hfront := isPrefix_withParts h
  refine ⟨mt (·.trans hfront) hp.not_root, fun hdot => ?_, mt (·.trans hfront) hp.not_here⟩
  -- A lone dot that is left is the first part of the path, so the path begins with it.
  have hparts : parts = [[dot]] := by
    have htext := bytes_withParts p parts
    rw [hdot, hp.dissect_eq, startBytes_none, List.nil_append] at htext
    cases parts with
    | nil => cases htext
    | cons part parts =>
      rw [← Text.splitOn_join (slash_not_mem_of_isPrefix h), ← htext]
      rfl
  rw [hparts, hp.dissect_eq] at h
  obtain ⟨rest, hrest⟩ := h
  have hjoin : p.bytes = [dot] ++ rest.flatMap ([slash] ++ ·) := by
    rw [← Text.join_cons, ← Text.join_splitOn p.bytes]
    exact congrArg (Text.join [slash]) hrest.symm
  cases rest with
  | nil => exact hp.not_dot hjoin
  | cons part rest => exact hp.not_here ⟨part ++ rest.flatMap ([slash] ++ ·), hjoin.symm⟩

theorem dissect_withParts {p : Path} {parts : List Name} (h : parts <+: p.dissect.2)
    : (p.withParts parts).dissect.1 = p.dissect.1
        ∧ (p.withParts parts).dissect.2.filter (!isIdle ·) = parts.filter (!isIdle ·) := by
  have hslash := slash_not_mem_of_isPrefix h
  have htext := bytes_withParts p parts
  obtain ⟨rest, hp⟩ | hp | ⟨rest, hp⟩ | hp := p.dissect_cases
  · rw [dissect_of_root hp, startBytes_root] at htext
    rw [dissect_of_root hp, dissect_of_root htext]
    exact ⟨rfl, filter_splitOn_join hslash⟩
  · have hhere := dissect_of_dot hp
    rw [(dissect_withParts_of_here hhere h).1, hhere]
    exact ⟨rfl, (dissect_withParts_of_here hhere h).2⟩
  · have hhere := dissect_of_here hp
    rw [Text.splitOn, if_pos rfl] at hhere
    rw [(dissect_withParts_of_here hhere h).1, hhere]
    exact ⟨rfl, (dissect_withParts_of_here hhere h).2⟩
  · rw [hp.dissect_eq, startBytes_none, List.nil_append] at htext
    rw [hp.dissect_eq, (isPlain_withParts hp h).dissect_eq, htext]
    exact ⟨rfl, filter_splitOn_join hslash⟩

/-! The folder of a path. -/

theorem filter_dropIdle (parts : List Name)
    : (dropIdle parts).filter (!isIdle ·) = parts.filter (!isIdle ·) := by
  change (parts.rdropWhile isIdle).filter _ = _
  induction parts using List.reverseRecOn with
  | nil => rfl
  | append_singleton parts part ih =>
    rw [List.rdropWhile_concat]
    split
    · next hidle =>
      rw [ih, List.filter_append, List.filter_cons_of_neg (by rw [hidle]; exact Bool.false_ne_true)]
      exact (List.append_nil _).symm
    · rfl

theorem isPrefix_dropIdle (parts : List Name) : dropIdle parts <+: parts :=
  List.rdropWhile_prefix isIdle parts

theorem name_of_fileName? {p : Path} {name : Name} (h : p.fileName? = some name)
    : p.parts.getLast? = some name := by
  rw [fileName?, components_eq, List.getLast?_append, List.getLast?_map] at h
  cases hlast : p.parts.getLast? with
  | none =>
    rw [hlast] at h
    obtain hstart | hstart | hstart := p.dissect_start <;> rw [hstart] at h <;> cases h
  | some last =>
    rw [hlast, Option.map_some, Option.some_or, componentOf] at h
    split at h
    · next hname =>
      split at hname
      · cases hname
      · cases hname
        cases h
        rfl
    · cases h

theorem exists_dropIdle {parts : List Name} {last : Name}
    (h : (parts.filter (!isIdle ·)).getLast? = some last)
    : ∃ init, dropIdle parts = init ++ [last] := by
  rw [← filter_dropIdle] at h
  obtain hnil | ⟨init, part, hdrop⟩ := List.eq_nil_or_concat (dropIdle parts)
  · rw [hnil] at h
    cases h
  · rw [List.concat_eq_append] at hdrop
    have hidle : ¬ isIdle part = true := by
      have hlast := List.rdropWhile_last_not isIdle parts
      change ∀ h : dropIdle parts ≠ [], ¬ isIdle ((dropIdle parts).getLast h) = true at hlast
      simp only [hdrop, List.getLast_append_singleton] at hlast
      exact hlast (List.concat_ne_nil part init)
    rw [hdrop, List.filter_append, List.filter_cons_of_pos (by simpa using hidle), List.filter_nil,
      List.getLast?_concat] at h
    obtain rfl := Option.some.inj h
    exact ⟨init, hdrop⟩

/--
The folder that a path stands in: the path is the folder's with a name behind it, and is written as
the folder is up to there.
-/
structure StandsIn (p folder : Path) (name : Name) : Prop where
  parent : p.parent? = some folder
  start : folder.dissect.1 = p.dissect.1
  parts : p.parts = folder.parts ++ [name]
  written : folder.bytes <+: p.bytes

theorem exists_standsIn {p : Path} {name : Name} (h : p.fileName? = some name)
    : ∃ folder, p.StandsIn folder name := by
  have hlast := name_of_fileName? h
  rw [← filter_dissect] at hlast
  obtain ⟨init, hdrop⟩ := exists_dropIdle hlast
  have hinit : dropIdle init <+: p.dissect.2 :=
    (isPrefix_dropIdle init).trans ((List.prefix_append init [name]).trans
      (hdrop ▸ isPrefix_dropIdle p.dissect.2))
  have hparts : p.parts = (p.withParts (dropIdle init)).parts ++ [name] := by
    have hidle := (List.mem_filter.1 (List.mem_of_getLast? hlast)).2
    rw [← filter_dissect p, ← filter_dropIdle, hdrop, List.filter_append, ← filter_dissect,
      (dissect_withParts hinit).2, filter_dropIdle,
      List.filter_cons_of_pos (p := (!isIdle ·)) hidle]
    rfl
  refine ⟨p.withParts (dropIdle init), ?_, (dissect_withParts hinit).1, hparts,
    isPrefix_withParts hinit⟩
  have hparent : p.parent? = some ⟨(p.dissect.1.map Component.bytes).getD []
      ++ Text.join [slash] (dropIdle init)⟩ := by
    rw [parent?]
    dsimp only
    rw [hdrop]
    split
    · next hnil =>
      exact absurd hnil (List.append_ne_nil_of_right_ne_nil init (List.cons_ne_nil _ []))
    · rw [List.dropLast_concat]
  rw [hparent, withParts, startBytes]

namespace StandsIn

variable {p folder : Path} {name : Name}

theorem components (h : p.StandsIn folder name) : p.components
    = folder.components ++ [componentOf name] := by
  rw [components_eq, components_eq, h.start, h.parts, List.map_append, List.append_assoc]
  rfl

theorem isAbsolute_eq (h : p.StandsIn folder name) : folder.isAbsolute = p.isAbsolute := by
  rw [Bool.eq_iff_iff, isAbsolute_iff, isAbsolute_iff, h.start]

theorem mem_parts (h : p.StandsIn folder name)
    : name ∈ Text.splitOn slash p.bytes := by
  have hmem : name ∈ p.parts := by
    rw [h.parts]
    exact List.mem_concat_self
  exact List.mem_of_mem_filter hmem

end StandsIn

theorem parts_of_empty {p : Path} (h : p.bytes = []) : p.parts = [] ∧ p.isAbsolute = false := by
  rw [parts, isAbsolute, h]
  exact ⟨rfl, by decide⟩

/-! Absolute paths. -/

theorem isAbsolute_iff_head {p : Path} : p.isAbsolute = true ↔ p.bytes.head? = some slash := by
  rw [isAbsolute, beq_iff_eq]

theorem isAbsolute_eq_of_isPrefix {p q : Path} (hp : p.bytes ≠ [])
    (h : p.bytes <+: q.bytes) : p.isAbsolute = q.isAbsolute := by
  rw [Bool.eq_iff_iff, isAbsolute_iff_head, isAbsolute_iff_head]
  obtain ⟨rest, hrest⟩ := h
  rw [← hrest, List.head?_append_of_ne_nil _ hp]

theorem prefix_join {p q : Path} (hp : p.bytes ≠ []) (hq : q.isAbsolute = false)
    : p.bytes <+: (p.join q).bytes := by
  obtain h | ⟨cs, hcs, h⟩ := bytes_join hp hq
  · exact ⟨_, h.symm⟩
  · rw [h, hcs]
    exact ⟨q.bytes, List.append_cons _ _ _ |>.symm⟩

theorem mem_of_mem_join {p q : Path} (hp : p.bytes ≠ []) (hq : q.isAbsolute = false) {c : UInt8}
    (h : c ∈ (p.join q).bytes) : c ∈ p.bytes ∨ c = slash ∨ c ∈ q.bytes := by
  obtain hjoin | ⟨cs, hcs, hjoin⟩ := bytes_join hp hq
  · rwa [hjoin, List.mem_append, List.mem_cons] at h
  · rw [hjoin, List.mem_append, List.mem_cons] at h
    rw [hcs, List.mem_append]
    exact h.imp_left .inl

end Path

namespace Place

/-! What a path leads to as seen from a folder. -/

section

variable {t : FileTree}

theorem foldlM_idle {part : Name} (h : Path.isIdle part = true) {parts : List Name}
    (hparts : parts ≠ []) (names : List Name)
    : (part :: parts).foldlM (step t) names = parts.foldlM (step t) names := by
  obtain ⟨next, parts, rfl⟩ := List.exists_cons_of_ne_nil hparts
  rw [List.foldlM_cons, List.foldlM_cons]
  by_cases hnode : t.node? names = some .folder
  · rw [step_idle h hnode]
    rfl
  · have hstep : step t names part = step t names next := by
      rw [step, step]
      split <;> first | rfl | contradiction
    rw [hstep]
    cases hnext : step t names next with
    | error e => rfl
    | ok found => exact absurd (step_ok hnext) hnode

end

variable {here : Place} {p q folder : Path}

theorem locate_eq (hp : p.bytes ≠ []) (hnul : 0 ∉ p.bytes)
    : here.locate p = (Text.splitOn Path.slash p.bytes).foldlM (step here.tree)
        (if p.isAbsolute then [] else here.folder) := by
  rw [locate, if_neg hp, if_neg (by simpa using hnul)]

theorem locate_join (hp : p.bytes ≠ []) (hq : q.isAbsolute = false)
    (hnul : 0 ∉ q.bytes)
    : here.locate (p.join q) = here.locate p
        >>= (Text.splitOn Path.slash q.bytes).foldlM (step here.tree) := by
  have hfront := Path.prefix_join hp hq
  have hjoin : (p.join q).bytes ≠ [] := by
    intro h
    rw [h] at hfront
    exact hp (List.prefix_nil.1 hfront)
  by_cases hpnul : 0 ∈ p.bytes
  · rw [locate, locate, if_neg hjoin, if_neg hp,
      if_pos (List.contains_iff_mem.2 (hfront.mem hpnul)),
      if_pos (List.contains_iff_mem.2 hpnul)]
    rfl
  · have hjnul : 0 ∉ (p.join q).bytes := by
      intro hmem
      obtain hmem | hmem | hmem := Path.mem_of_mem_join hp hq hmem
      · exact hpnul hmem
      · cases hmem
      · exact hnul hmem
    rw [locate_eq hjoin hjnul, locate_eq hp hpnul, ← Path.isAbsolute_eq_of_isPrefix hp hfront]
    obtain h | ⟨cs, hcs, h⟩ := Path.bytes_join hp hq
    · rw [h, Text.splitOn_append, List.foldlM_append]
    · -- The slash at the end of the folder divides an empty part off, which stands for nothing.
      rw [h, hcs, Text.splitOn_append, Text.splitOn_append, List.foldlM_append,
        List.foldlM_append, bind_assoc]
      congr 1
      funext names
      rw [← List.foldlM_append]
      exact (foldlM_idle rfl (Text.splitOn_ne_nil _ _) names).symm

theorem bytes_ne_nil_of_locate {names : List Name} (h : here.locate p = .ok names)
    : p.bytes ≠ [] := by
  intro hempty
  rw [locate, if_pos hempty] at h
  cases h

theorem not_mem_nul_of_locate {names : List Name} (h : here.locate p = .ok names)
    : 0 ∉ p.bytes := by
  rw [locate] at h
  split at h
  · cases h
  · split at h
    · cases h
    · next hnul => rwa [List.contains_iff_mem] at hnul

theorem exists_find_of_readText {text : String} (h : here.readText p = .ok text)
    : ∃ names node, here.find p = .ok (names, node) := by
  rw [readText, readBytes] at h
  cases hfind : here.find p with
  | error e =>
    rw [hfind] at h
    cases h
  | ok found => exact ⟨found.1, found.2, rfl⟩

theorem readText_eq_of_locate (h : here.locate p = here.locate q)
    : here.readText p = here.readText q := by
  rw [readText, readText, readBytes, readBytes, find, find, h]

theorem exists_locate_folder {name : Name} (hin : p.StandsIn folder name) {names : List Name}
    (h : here.locate p = .ok names)
    : ∃ way, here.tree.node? way = some .folder
        ∧ (folder.bytes = [] → way = here.folder)
        ∧ (folder.bytes ≠ [] → here.locate folder = .ok way)
        ∧ ∀ q : Path, here.locate q = .ok way → here.locate (q.join ⟨name⟩) = .ok names := by
  have hnul := not_mem_nul_of_locate h
  have hway := locate_ok h
  rw [hin.parts, List.foldlM_append, ← hin.isAbsolute_eq] at hway
  cases hfolder : folder.parts.foldlM (step here.tree)
      (if folder.isAbsolute then [] else here.folder) with
  | error e =>
    rw [hfolder] at hway
    cases hway
  | ok way =>
    rw [hfolder] at hway
    have hstep : step here.tree way name = .ok names := (bind_pure _).symm.trans hway
    have hnode := step_ok hstep
    refine ⟨way, hnode, fun hempty => ?_, fun hfull => ?_, fun q hq => ?_⟩
    · rw [(Path.parts_of_empty hempty).1, (Path.parts_of_empty hempty).2] at hfolder
      exact (Except.ok.inj hfolder).symm
    · rw [locate_eq hfull fun hmem => hnul (hin.written.mem hmem)]
      exact foldlM_of_filter hfolder hnode
    · have hslash : Path.slash ∉ name := Text.not_mem_of_mem_splitOn hin.mem_parts
      have hrelative : (Path.mk name).isAbsolute = false := by
        rw [← Bool.not_eq_true, Path.isAbsolute_iff_head]
        exact fun hhead => hslash (List.mem_of_head? hhead)
      rw [locate_join (bytes_ne_nil_of_locate hq) hrelative fun hmem =>
        hnul (Text.mem_of_mem_splitOn hin.mem_parts hmem), hq, Text.splitOn_of_not_mem hslash]
      exact (bind_pure _).trans hstep

end Place

namespace Project

/-! The project of a file with settings, and that of its folder. -/

variable {here : Place} {p folder root : Path} {text : String} {settings : Settings}

theorem ofFile_eq (hread : here.readText p = .ok text)
    (hsettings : Settings.ofToml? text = some settings)
    : ofFile here p = .ok ⟨p.parent?.getD (Path.ofNames here.folder), settings⟩ := by
  rw [ofFile, hread]
  dsimp only
  rw [hsettings]

theorem exists_discover_eq (hread : here.readText (root.join fileName) = .ok text)
    (hsettings : Settings.ofToml? text = some settings)
    : here.hasPath (root.join fileName) = true
        ∧ ∃ root', discover here root = .ok ⟨root', settings⟩ := by
  have hpath : here.hasPath (root.join fileName) = true := by
    obtain ⟨names, node, hfind⟩ := Place.exists_find_of_readText hread
    exact Place.hasPath_iff.2 ⟨names, node, hfind⟩
  have hdiscover : discover here root = ofFile here (root.join fileName) := by
    rw [discover]
    exact if_pos hpath
  exact ⟨hpath, _, hdiscover.trans (ofFile_eq hread hsettings)⟩

end Project

end DeprecatedUse
