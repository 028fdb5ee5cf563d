import DeprecatedUse.Proofs.Workspace.Discovery
import DeprecatedUse.Proofs.Workspace.Folders

/-!
This module contains the finding of files from the folder that relative paths start from, which can
be written as a dot or, behind a file that stands there, as nothing. Under both roots the same files
are found in source roots that are named; a dot is put in front of the relative ones.
-/

namespace DeprecatedUse

namespace Path

/-! Paths with a dot in front. -/

def dotted (p : Path) : Path :=
  if p.isAbsolute then p else ⟨dot :: slash :: p.bytes⟩

def isNamed (p : Path) : Bool :=
  p.components.head?.any (· != .here)

variable {p q : Path}

theorem bytes_ne_nil_of_isNamed (h : p.isNamed = true) : p.bytes ≠ [] := by
  rw [Ne, bytes_eq_nil_iff]
  intro hnil
  rw [isNamed, hnil] at h
  cases h

theorem dotted_of_absolute (h : p.isAbsolute = true) : p.dotted = p :=
  if_pos h

theorem dotted_of_relative (h : p.isAbsolute = false) : p.dotted = ⟨dot :: slash :: p.bytes⟩ :=
  if_neg (Bool.eq_false_iff.1 h)

theorem bytes_dotted (h : p.isAbsolute = false)
    : p.dotted.bytes = dot :: slash :: p.bytes := by
  rw [dotted_of_relative h]

theorem components_cases (h : p.isNamed = true)
    : (p.isAbsolute = true ∧ ∃ cs, p.components = .root :: cs)
      ∨ (p.isAbsolute = false ∧ p.components = p.parts.map componentOf
        ∧ ∃ part parts, p.parts = part :: parts) := by
  rw [isNamed, components_eq] at h
  rw [Bool.eq_false_iff, Ne, isAbsolute_iff, components_eq]
  obtain hstart | hstart | hstart := p.dissect_start
  · rw [hstart] at h ⊢
    refine .inr ⟨nofun, rfl, ?_⟩
    cases hparts : p.parts with
    | nil =>
      rw [hparts] at h
      cases h
    | cons part parts => exact ⟨part, parts, rfl⟩
  · rw [hstart]
    exact .inl ⟨rfl, _, rfl⟩
  · rw [hstart] at h
    cases h

theorem components_dotted (h : p.isAbsolute = false)
    : p.dotted.components = .here :: p.parts.map componentOf := by
  rw [components_eq, ← filter_dissect, dissect_of_here (bytes_dotted h), Text.splitOn, if_pos rfl]
  rfl

/-! Joining. -/

theorem join_of_absolute (h : q.isAbsolute = true) : p.join q = q := by
  rw [join, h]
  rfl

theorem join_of_relative (hp : p.bytes ≠ []) (hq : q.isAbsolute = false)
    : p.join q = if p.bytes.getLast? = some slash then ⟨p.bytes ++ q.bytes⟩
        else ⟨p.bytes ++ slash :: q.bytes⟩ := by
  rw [join, if_neg (by rw [hq, Bool.false_or, decide_eq_true_eq]; exact hp)]

theorem join_empty (q : Path) : join ⟨[]⟩ q = q := by
  rw [join, if_pos (by rw [decide_eq_true rfl, Bool.or_true])]

theorem join_dot (q : Path) : join ⟨[dot]⟩ q = q.dotted := by
  cases hq : q.isAbsolute with
  | true => rw [join_of_absolute hq, dotted_of_absolute hq]
  | false =>
    rw [join_of_relative (by decide) hq, dotted_of_relative hq,
      if_neg (by decide)]
    rfl

theorem isNamed_of_absolute (h : p.isAbsolute = true) : p.isNamed = true := by
  rw [isNamed, components_eq, isAbsolute_iff.1 h]
  rfl

theorem isNamed_join (h : p.isNamed = true) (q : Path) : (p.join q).isNamed = true := by
  cases hq : q.isAbsolute with
  | true =>
    rw [join_of_absolute hq]
    exact isNamed_of_absolute hq
  | false =>
    rw [isNamed] at h ⊢
    rw [components_join (bytes_ne_nil_of_isNamed (by rwa [isNamed])) hq]
    cases hcomponents : p.components with
    | nil =>
      rw [hcomponents] at h
      cases h
    | cons c cs =>
      rw [hcomponents] at h
      exact h

theorem dotted_join (h : p.isNamed = true) (q : Path) : (p.join q).dotted = p.dotted.join q := by
  cases hq : q.isAbsolute with
  | true => rw [join_of_absolute hq, join_of_absolute hq, dotted_of_absolute hq]
  | false =>
    have hempty := bytes_ne_nil_of_isNamed h
    have habsolute := isAbsolute_eq_of_isPrefix hempty (prefix_join hempty hq)
    cases hp : p.isAbsolute with
    | true => rw [dotted_of_absolute hp, dotted_of_absolute (habsolute.symm.trans hp)]
    | false =>
      have hdotted := bytes_dotted hp
      have hends : p.dotted.bytes.getLast? = p.bytes.getLast? := by
        rw [bytes_dotted hp]
        obtain ⟨c, cs, hcs⟩ := List.exists_cons_of_ne_nil hempty
        rw [hcs, List.getLast?_cons_cons, List.getLast?_cons_cons]
      have hfull : p.dotted.bytes ≠ [] := by
        rw [bytes_dotted hp]
        exact List.cons_ne_nil _ _
      rw [dotted_of_relative (habsolute.symm.trans hp), join_of_relative hempty hq,
        join_of_relative hfull hq, hends, dotted_of_relative hp]
      split <;> rfl

theorem foldl_dotted_join (h : p.isNamed = true) (names : List Name)
    : (names.foldl (fun path name => path.join ⟨name⟩) p).isNamed = true
      ∧ names.foldl (fun path name => path.join ⟨name⟩) p.dotted
        = (names.foldl (fun path name => path.join ⟨name⟩) p).dotted := by
  induction names generalizing p with
  | nil => exact ⟨h, rfl⟩
  | cons name names ih =>
    rw [List.foldl_cons, List.foldl_cons, ← dotted_join h]
    exact ih (isNamed_join h ⟨name⟩)

/-! Comparing. -/

theorem componentsLe_cons_self (c : Component) (as bs : List Component)
    : componentsLe (c :: as) (c :: bs) = componentsLe as bs := by
  rw [Bool.eq_iff_iff, componentsLe_cons]
  constructor
  · rintro (h | ⟨-, h⟩)
    · exact absurd h (Component.not_before_self c)
    · exact h
  · exact fun h => .inr ⟨rfl, h⟩

theorem root_before_componentOf (part : Name)
    : Component.root.before (componentOf part) = true
      ∧ (componentOf part).before .root = false := by
  rw [componentOf]
  split
  · decide
  · exact ⟨rfl, rfl⟩

theorem componentsLe_of_before {a b : Component} (h : a.before b = true ∧ b.before a = false)
    (as bs : List Component)
    : componentsLe (a :: as) (b :: bs) = true ∧ componentsLe (b :: bs) (a :: as) = false := by
  refine ⟨componentsLe_cons.2 (.inl h.1), ?_⟩
  rw [← Bool.not_eq_true, componentsLe_cons, h.2]
  rintro (hba | ⟨rfl, -⟩)
  · cases hba
  · exact Component.not_before_self _ h.1

theorem le_dotted (hp : p.isNamed = true) (hq : q.isNamed = true)
    : p.dotted.le q.dotted = p.le q := by
  have hhere : Component.root.before .here = true ∧ Component.here.before .root = false := by
    decide
  rw [le, le]
  obtain ⟨hp, cs, hpc⟩ | ⟨hp, hpc, part, parts, hparts⟩ := components_cases hp <;>
    obtain ⟨hq, ds, hqc⟩ | ⟨hq, hqc, part', parts', hparts'⟩ := components_cases hq
  · rw [dotted_of_absolute hp, dotted_of_absolute hq]
  · rw [dotted_of_absolute hp, components_dotted hq, hqc, hpc, hparts', List.map_cons,
      (componentsLe_of_before hhere _ _).1,
      (componentsLe_of_before (root_before_componentOf part') _ _).1]
  · rw [dotted_of_absolute hq, components_dotted hp, hqc, hpc, hparts, List.map_cons,
      (componentsLe_of_before hhere _ _).2,
      (componentsLe_of_before (root_before_componentOf part) _ _).2]
  · rw [components_dotted hp, components_dotted hq, hpc, hqc, componentsLe_cons_self]

theorem same_iff_le : p.same q = true ↔ p.le q = true ∧ q.le p = true := by
  rw [same_iff, le, le]
  constructor
  · intro h
    rw [h]
    exact ⟨(or_self_iff).1 (componentsLe_total _ _), (or_self_iff).1 (componentsLe_total _ _)⟩
  · exact fun h => componentsLe_antisymm h.1 h.2

theorem same_dotted (hp : p.isNamed = true) (hq : q.isNamed = true)
    : p.dotted.same q.dotted = p.same q := by
  rw [Bool.eq_iff_iff, same_iff_le, same_iff_le, le_dotted hp hq, le_dotted hq hp]

theorem extension?_dotted (h : p.isNamed = true) : p.dotted.extension? = p.extension? := by
  rw [extension?, extension?, fileName?, fileName?]
  obtain ⟨hp, -⟩ | ⟨hp, hpc, part, parts, hparts⟩ := components_cases h
  · rw [dotted_of_absolute hp]
  · rw [components_dotted hp, hpc, hparts, List.map_cons, List.getLast?_cons_cons]

theorem relativeTo_dotted (h : p.isNamed = true)
    : relativeTo ⟨[dot]⟩ p.dotted = relativeTo ⟨[]⟩ p := by
  have hdot : (Path.mk [dot]).components = [.here] := by decide
  have hempty : (Path.mk []).components = [] := by decide
  rw [relativeTo, relativeTo, hdot, hempty]
  obtain ⟨hp, cs, hpc⟩ | ⟨hp, hpc, -⟩ := components_cases h
  · rw [dotted_of_absolute hp, hpc]
    rfl
  · rw [components_dotted hp, hpc]
    rfl

end Path

namespace Place

variable {here : Place} {p : Path}

theorem find_empty (here : Place) : here.find ⟨[]⟩ = .error .notFound := by
  rw [find, locate, if_pos rfl]
  rfl

theorem locate_dot (h : here.tree.node? here.folder = some .folder)
    : here.locate ⟨[Path.dot]⟩ = .ok here.folder := by
  have hrelative : (Path.mk [Path.dot]).isAbsolute = false := by decide +kernel
  have hsplit : Text.splitOn Path.slash (Path.mk [Path.dot]).bytes = [[Path.dot]] := by decide
  rw [locate_eq (by decide) (by decide), hrelative, hsplit, if_neg Bool.false_ne_true,
    List.foldlM_cons, step_idle rfl h]
  rfl

theorem locate_dotted (h : p.bytes ≠ []) : here.locate p.dotted = here.locate p := by
  cases hp : p.isAbsolute with
  | true => rw [Path.dotted_of_absolute hp]
  | false =>
    have htext := Path.bytes_dotted hp
    have hfull : p.dotted.bytes ≠ [] := by
      rw [htext]
      exact List.cons_ne_nil _ _
    have hrelative : p.dotted.isAbsolute = false := by
      rw [Bool.eq_false_iff, Ne, Path.isAbsolute_iff_head, htext, List.head?_cons]
      decide
    by_cases hnul : 0 ∈ p.bytes
    · have hdotted : 0 ∈ p.dotted.bytes := by
        rw [htext]
        exact List.mem_cons_of_mem _ (List.mem_cons_of_mem _ hnul)
      rw [locate, locate, if_neg hfull, if_neg h, if_pos (List.contains_iff_mem.2 hdotted),
        if_pos (List.contains_iff_mem.2 hnul)]
    · have hdotted : 0 ∉ p.dotted.bytes := by
        rw [htext, List.mem_cons, List.mem_cons]
        rintro (hmem | hmem | hmem)
        · cases hmem
        · cases hmem
        · exact hnul hmem
      -- The dot is a part of the way that leads nowhere else.
      rw [locate_eq hfull hdotted, locate_eq h hnul, hrelative, hp, htext,
        ← List.singleton_append, Text.splitOn_append]
      exact foldlM_idle rfl (Text.splitOn_ne_nil _ _) here.folder

theorem find_dotted (h : p.bytes ≠ []) : here.find p.dotted = here.find p := by
  rw [find, find, locate_dotted h]

theorem absolute_dotted (h : p.bytes ≠ []) : here.absolute p.dotted = here.absolute p := by
  rw [absolute, absolute, find_dotted h]

theorem filesBelow_dotted (h : p.isNamed = true)
    : here.filesBelow p.dotted = (here.filesBelow p).map Path.dotted
      ∧ ∀ f ∈ here.filesBelow p, f.isNamed = true := by
  rw [filesBelow, filesBelow, find_dotted (Path.bytes_ne_nil_of_isNamed h)]
  cases here.find p with
  | error e => exact ⟨rfl, List.forall_mem_nil _⟩
  | ok found =>
    dsimp only
    constructor
    · rw [List.map_map]
      exact List.map_congr_left fun behind _ => (Path.foldl_dotted_join h behind).2
    · intro f hf
      obtain ⟨behind, -, rfl⟩ := List.mem_map.1 hf
      exact (Path.foldl_dotted_join h behind).1

end Place

namespace Workspace

/-! Lists of paths that are named. -/

theorem foldl_distinct_dotted {paths kept : List Path} (hkept : ∀ p ∈ kept, p.isNamed = true)
    (hpaths : ∀ p ∈ paths, p.isNamed = true)
    : (paths.map Path.dotted).foldl
          (fun kept p => if kept.any (·.same p) then kept else kept ++ [p]) (kept.map Path.dotted)
        = (paths.foldl (fun kept p => if kept.any (·.same p) then kept else kept ++ [p])
          kept).map Path.dotted := by
  induction paths generalizing kept with
  | nil => rfl
  | cons p paths ih =>
    obtain ⟨hp, hpaths⟩ := List.forall_mem_cons.1 hpaths
    have hany : (kept.map Path.dotted).any (·.same p.dotted) = kept.any (·.same p) := by
      rw [List.any_map, Bool.eq_iff_iff, List.any_eq_true, List.any_eq_true]
      refine exists_congr fun q => and_congr_right fun hq => ?_
      rw [Function.comp_apply, Path.same_dotted (hkept q hq) hp]
    rw [List.map_cons, List.foldl_cons, List.foldl_cons, hany]
    split
    · exact ih hkept hpaths
    · rw [← List.map_singleton, ← List.map_append]
      refine ih (fun q hq => ?_) hpaths
      obtain hq | hq := List.mem_append.1 hq
      · exact hkept q hq
      · rw [List.mem_singleton.1 hq]
        exact hp

theorem distinct_dotted {paths : List Path} (h : ∀ p ∈ paths, p.isNamed = true)
    : distinct (paths.map Path.dotted) = (distinct paths).map Path.dotted := by
  rw [distinct, distinct]
  exact foldl_distinct_dotted (List.forall_mem_nil _) h

theorem dropRepeats_dotted {paths : List Path} (h : ∀ p ∈ paths, p.isNamed = true)
    : dropRepeats (paths.map Path.dotted) = (dropRepeats paths).map Path.dotted := by
  fun_induction dropRepeats paths with
  | case1 p q rest hsame ih =>
    obtain ⟨hp, hq, hrest⟩ := List.forall_mem_cons.1 h |>.imp_right List.forall_mem_cons.1
    rw [List.map_cons, List.map_cons, dropRepeats, if_pos (by rwa [Path.same_dotted hp hq])]
    exact ih (List.forall_mem_cons.2 ⟨hp, hrest⟩)
  | case2 p q rest hsame ih =>
    obtain ⟨hp, hq, hrest⟩ := List.forall_mem_cons.1 h |>.imp_right List.forall_mem_cons.1
    rw [List.map_cons, List.map_cons, dropRepeats, if_neg (by rwa [Path.same_dotted hp hq]),
      List.map_cons, ← ih (List.forall_mem_cons.2 ⟨hq, hrest⟩), List.map_cons]
  | case3 paths hshort =>
    cases paths with
    | nil => simp only [List.map_nil, dropRepeats]
    | cons p rest =>
      cases rest with
      | nil => simp only [List.map_cons, List.map_nil, dropRepeats]
      | cons q rest => exact absurd rfl (hshort p q rest)

variable {here : Place} {settings : Settings}

theorem wants_dotted {f : Path} (h : f.isNamed = true)
    : wants ⟨⟨[Path.dot]⟩, settings⟩ f.dotted = wants ⟨⟨[]⟩, settings⟩ f := by
  rw [wants, wants, Path.extension?_dotted h, Path.relativeTo_dotted h]

theorem filesBelow_dotted {roots : List Path} (h : ∀ r ∈ roots, r.isNamed = true)
    : filesBelow here ⟨⟨[Path.dot]⟩, settings⟩ (roots.map Path.dotted)
        = (filesBelow here ⟨⟨[]⟩, settings⟩ roots).map Path.dotted
      ∧ ∀ f ∈ filesBelow here ⟨⟨[]⟩, settings⟩ roots, f.isNamed = true := by
  have hbelow : (roots.map Path.dotted).flatMap here.filesBelow
      = (roots.flatMap here.filesBelow).map Path.dotted := by
    rw [List.flatMap_map, List.map_flatMap]
    exact List.flatMap_congr fun r hr => (Place.filesBelow_dotted (h r hr)).1
  have hnamed : ∀ f ∈ roots.flatMap here.filesBelow, f.isNamed = true := by
    intro f hf
    obtain ⟨r, hr, hf⟩ := List.mem_flatMap.1 hf
    exact (Place.filesBelow_dotted (h r hr)).2 f hf
  have hwants : ((roots.flatMap here.filesBelow).map Path.dotted).filter
        (wants ⟨⟨[Path.dot]⟩, settings⟩)
      = ((roots.flatMap here.filesBelow).filter (wants ⟨⟨[]⟩, settings⟩)).map Path.dotted := by
    rw [List.filter_map]
    exact congrArg (List.map Path.dotted)
      (List.filter_congr fun f hf => wants_dotted (hnamed f hf))
  have hkept : ∀ f ∈ (roots.flatMap here.filesBelow).filter (wants ⟨⟨[]⟩, settings⟩),
      f.isNamed = true := fun f hf => hnamed f (List.mem_of_mem_filter hf)
  have hsorted : ∀ f ∈ ((roots.flatMap here.filesBelow).filter
      (wants ⟨⟨[]⟩, settings⟩)).mergeSort Path.le, f.isNamed = true :=
    fun f hf => hkept f (List.mem_mergeSort.1 hf)
  constructor
  · rw [filesBelow, filesBelow, hbelow, hwants, ← dropRepeats_dotted hsorted,
      List.map_mergeSort fun p hp q hq => (Path.le_dotted (hkept p hp) (hkept q hq)).symm]
  · exact fun f hf => hsorted f ((dropRepeats_sublist _).mem hf)

/-! Workspaces. -/

variable {host : Host}

def RunsNoCommand (settings : Settings) : Prop :=
  settings.sources.buildInfoFile = none → settings.sources.buildInfoCommand = []

theorem buildInfo_emptyRoot_command (hfile : settings.sources.buildInfoFile = none)
    (hcommand : settings.sources.buildInfoCommand ≠ [])
    : ∃ cause, buildInfo host ⟨⟨[]⟩, settings⟩ = .error (.command cause) := by
  obtain ⟨program, arguments, hwords⟩ := List.exists_cons_of_ne_nil hcommand
  have hrun : ∃ e, host.run ⟨[]⟩ program arguments = .error e := by
    rw [Host.run, Host.start, Place.enter, Place.find_empty]
    split
    · exact ⟨.badWord, rfl⟩
    · exact ⟨.notFound, rfl⟩
  obtain ⟨e, hrun⟩ := hrun
  refine ⟨program ++ ": " ++ e.message, ?_⟩
  rw [buildInfo]
  dsimp only
  rw [hfile]
  dsimp only
  rw [if_neg hcommand, hwords, BuildInfo.ofCommand, hrun]

theorem readText_dot_ne_ok (text : String) : host.readText ⟨[Path.dot, Path.slash]⟩ ≠ .ok text := by
  intro h
  obtain ⟨names, node, hfind⟩ := Place.exists_find_of_readText h
  have hlocate := Place.find_ok hfind
  have hrelative : (Path.mk [Path.dot, Path.slash]).isAbsolute = false := by decide +kernel
  have hparts : (Path.mk [Path.dot, Path.slash]).parts = [] := by decide
  obtain rfl : host.folder = names := by
    have hway := Place.locate_ok hlocate
    rw [hparts, hrelative] at hway
    exact Except.ok.inj hway
  have hfolder : host.tree.node? host.folder = some .folder := by
    have hsplit : Text.splitOn Path.slash (Path.mk [Path.dot, Path.slash]).bytes
        = [[Path.dot], []] := by
      decide
    rw [Place.locate_eq (by decide) (by decide), hrelative, hsplit,
      if_neg Bool.false_ne_true] at hlocate
    rw [List.foldlM_cons] at hlocate
    cases hstep : Place.step host.tree host.folder [Path.dot] with
    | error e =>
      rw [hstep] at hlocate
      cases hlocate
    | ok next => exact Place.step_ok hstep
  obtain rfl : node = .folder :=
    Option.some.inj ((Place.node?_of_find hfind).symm.trans hfolder)
  rw [Place.readText, Place.readBytes, hfind] at h
  cases h

theorem buildInfo_dotted (h : RunsNoCommand settings) (info : BuildInfo)
    : buildInfo host ⟨⟨[Path.dot]⟩, settings⟩ = .ok info
        ↔ buildInfo host ⟨⟨[]⟩, settings⟩ = .ok info := by
  rw [buildInfo, buildInfo]
  dsimp only
  cases hfile : settings.sources.buildInfoFile with
  | none =>
    rw [h hfile]
    exact Iff.rfl
  | some file =>
    dsimp only
    rw [Path.join_empty, Path.join_dot, BuildInfo.ofFile, BuildInfo.ofFile]
    generalize Path.ofText file = q
    by_cases hempty : q.bytes = []
    · obtain rfl : q = ⟨[]⟩ := congrArg Path.mk hempty
      have hdot : (Path.mk []).dotted = ⟨[Path.dot, Path.slash]⟩ := by decide
      have herror : host.readText ⟨[]⟩ = .error .notFound := by
        rw [Place.readText, Place.readBytes, Place.find_empty]
        rfl
      rw [hdot, herror]
      cases htext : host.readText ⟨[Path.dot, Path.slash]⟩ with
      | error e => constructor <;> (intro h; cases h)
      | ok text => exact absurd htext (readText_dot_ne_ok text)
    · rw [Place.readText_eq_of_locate (Place.locate_dotted hempty)]
      cases host.readText q with
      | error e => constructor <;> (intro h; cases h)
      | ok text => exact Iff.rfl

theorem placeAfter_eq {root : Path} (h : RunsNoCommand settings)
    : placeAfter host ⟨root, settings⟩ = host.toPlace := by
  rw [placeAfter]
  dsimp only
  split
  · next hfile hcommand =>
    rw [h hfile] at hcommand
    cases hcommand
  · rfl

theorem discover_emptyRoot_nil {info : BuildInfo}
    (hinfo : buildInfo host ⟨⟨[]⟩, settings⟩ = .ok info)
    (hnil : settings.sources.sourcePaths ++ info.sourcePaths = [])
    : ∃ w, discover host ⟨⟨[]⟩, settings⟩ = .ok w ∧ w.files = [] := by
  refine ⟨_, by rw [discover, hinfo]; rfl, ?_⟩
  dsimp only
  have hroots : rootsOf ⟨[]⟩ [] = [⟨[]⟩] := by decide
  rw [hnil, hroots, filesBelow, List.flatMap_singleton, Place.filesBelow, Place.find_empty]
  dsimp only
  rw [List.filter_nil, List.mergeSort_nil, dropRepeats]
  intro _ _ _ h
  cases h

theorem rootsOf_dotted {sourcePaths : List String} (hnil : sourcePaths ≠ [])
    (h : ∀ path ∈ sourcePaths, (Path.ofText path).isNamed = true)
    : rootsOf ⟨[Path.dot]⟩ sourcePaths = (rootsOf ⟨[]⟩ sourcePaths).map Path.dotted
      ∧ ∀ r ∈ rootsOf ⟨[]⟩ sourcePaths, r.isNamed = true := by
  have hempty : namedRoots ⟨[]⟩ sourcePaths = sourcePaths.map Path.ofText := by
    rw [namedRoots, if_neg hnil]
    exact List.map_congr_left fun path _ => Path.join_empty ⟨path⟩
  have hdot : namedRoots ⟨[Path.dot]⟩ sourcePaths
      = (sourcePaths.map Path.ofText).map Path.dotted := by
    rw [namedRoots, if_neg hnil, List.map_map]
    exact List.map_congr_left fun path _ => Path.join_dot ⟨path⟩
  have hnamed : ∀ r ∈ sourcePaths.map Path.ofText, r.isNamed = true :=
    List.forall_mem_map.2 h
  rw [rootsOf_eq, rootsOf_eq, hempty, hdot]
  refine ⟨distinct_dotted hnamed, fun r hr => hnamed r ?_⟩
  exact List.mem_of_find?_eq_some (mem_distinct_iff.1 hr)

theorem discover_dotted (h : RunsNoCommand settings) {info : BuildInfo}
    (hinfo : buildInfo host ⟨⟨[]⟩, settings⟩ = .ok info)
    (hnil : settings.sources.sourcePaths ++ info.sourcePaths ≠ [])
    (hnamed : ∀ path ∈ settings.sources.sourcePaths ++ info.sourcePaths,
      (Path.ofText path).isNamed = true)
    : ∃ w w', discover host ⟨⟨[]⟩, settings⟩ = .ok w
        ∧ discover host ⟨⟨[Path.dot]⟩, settings⟩ = .ok w'
        ∧ w'.files = w.files.map Path.dotted
        ∧ w'.files.map host.absolute = w.files.map host.absolute := by
  have hinfo' := (buildInfo_dotted h info).2 hinfo
  refine ⟨_, _, by rw [discover, hinfo]; rfl, by rw [discover, hinfo']; rfl, ?_⟩
  have hroots := rootsOf_dotted hnil hnamed
  obtain ⟨hfiles, hfiles_named⟩ := filesBelow_dotted hroots.2
  dsimp only
  rw [placeAfter_eq h, placeAfter_eq h, hroots.1, hfiles]
  refine ⟨rfl, ?_⟩
  rw [List.map_map]
  exact List.map_congr_left fun f hf =>
    Place.absolute_dotted (Path.bytes_ne_nil_of_isNamed (hfiles_named f hf))

/-! What both roots find. -/

/--
Both projects find the same files, or none of them can be searched.
-/
def FindAlike (host : Host) (project project' : Project) : Prop :=
  match discover host project, discover host project' with
  | .ok w, .ok w' =>
    w.files.map (placeAfter host project).absolute
      = w'.files.map (placeAfter host project').absolute
  | .error _, .error _ => True
  | _, _ => False

theorem findAlike_refl (host : Host) (project : Project) : FindAlike host project project := by
  rw [FindAlike]
  cases discover host project with
  | error e => trivial
  | ok w => rfl

/--
What is found from the empty root, and how it differs from what is found from the dot. A command
for build information fails, and where no source root is named nothing is found. Otherwise the same
files are found, if each source root that is named begins with something else than a dot.
-/
structure FindsLess (host : Host) (settings : Settings) : Prop where
  command : settings.sources.buildInfoFile = none → settings.sources.buildInfoCommand ≠ [] →
    ∃ cause, discover host ⟨⟨[]⟩, settings⟩ = .error (.command cause)
  info : RunsNoCommand settings → ∀ info, buildInfo host ⟨⟨[Path.dot]⟩, settings⟩ = .ok info
      ↔ buildInfo host ⟨⟨[]⟩, settings⟩ = .ok info
  nothing : ∀ info, buildInfo host ⟨⟨[]⟩, settings⟩ = .ok info →
    settings.sources.sourcePaths ++ info.sourcePaths = [] →
    ∃ w, discover host ⟨⟨[]⟩, settings⟩ = .ok w ∧ w.files = []
  alike : RunsNoCommand settings →
    (∀ info, buildInfo host ⟨⟨[]⟩, settings⟩ = .ok info →
      settings.sources.sourcePaths ++ info.sourcePaths ≠ []
        ∧ ∀ path ∈ settings.sources.sourcePaths ++ info.sourcePaths,
            (Path.ofText path).isNamed = true) →
    FindAlike host ⟨⟨[]⟩, settings⟩ ⟨⟨[Path.dot]⟩, settings⟩

theorem findsLess (host : Host) (settings : Settings) : FindsLess host settings where
  command := by
    intro hfile hcommand
    obtain ⟨cause, hinfo⟩ : ∃ cause, buildInfo host ⟨⟨[]⟩, settings⟩ = .error (.command cause) :=
      buildInfo_emptyRoot_command hfile hcommand
    refine ⟨cause, ?_⟩
    rw [discover, hinfo]
    rfl
  info := buildInfo_dotted
  nothing _ := discover_emptyRoot_nil
  alike := by
    intro h hnamed
    rw [FindAlike]
    cases hinfo : buildInfo host ⟨⟨[]⟩, settings⟩ with
    | error e =>
      cases hinfo' : buildInfo host ⟨⟨[Path.dot]⟩, settings⟩ with
      | error e' =>
        rw [discover, discover, hinfo, hinfo']
        trivial
      | ok info =>
        rw [(buildInfo_dotted h info).1 hinfo'] at hinfo
        cases hinfo
    | ok info =>
      obtain ⟨hnil, hnamed⟩ := hnamed info hinfo
      obtain ⟨w, w', hw, hw', -, hfiles⟩ := discover_dotted h hinfo hnil hnamed
      rw [hw, hw']
      dsimp only
      rw [placeAfter_eq h, placeAfter_eq h, hfiles]

end Workspace

end DeprecatedUse
