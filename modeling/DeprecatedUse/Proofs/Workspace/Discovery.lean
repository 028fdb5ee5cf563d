import DeprecatedUse.Proofs.Workspace.Spellings

/-!
This module contains the finding of the Java files of a project. The files below the source roots
are found, in order and each once, whatever the order of the source roots. Of source roots that are
the same path only the first is looked at; this loses a file that is a source root itself where the
first of its paths ends in a slash.
-/

namespace DeprecatedUse

/-! Places that differ in what stands in their files. -/

def FileTree.Node.bare : FileTree.Node → FileTree.Node
  | .file _ => .file []
  | node => node

namespace Place

structure Alike (here there : Place) : Prop where
  folder : there.folder = here.folder
  nodes : ∀ names,
    (there.tree.nodes.find? names).map FileTree.Node.bare
      = (here.tree.nodes.find? names).map FileTree.Node.bare

namespace Alike

variable {here there : Place}

theorem refl (here : Place) : here.Alike here where
  folder := rfl
  nodes _ := rfl

theorem symm (h : here.Alike there) : there.Alike here where
  folder := h.folder.symm
  nodes names := (h.nodes names).symm

theorem node? (h : here.Alike there) (names : List Name)
    : (there.tree.node? names).map FileTree.Node.bare
        = (here.tree.node? names).map FileTree.Node.bare := by
  rw [FileTree.node?, FileTree.node?]
  split
  · rfl
  · exact h.nodes names

theorem step_eq (h : here.Alike there) (names : List Name) (part : Name)
    : step there.tree names part = step here.tree names part := by
  have hnode := h.node? names
  rw [step, step]
  cases hthere : there.tree.node? names with
  | none =>
    cases hhere : here.tree.node? names with
    | none => rfl
    | some node =>
      rw [hthere, hhere] at hnode
      cases hnode
  | some node =>
    cases hhere : here.tree.node? names with
    | none =>
      rw [hthere, hhere] at hnode
      cases hnode
    | some node' =>
      rw [hthere, hhere] at hnode
      cases node <;> cases node' <;> cases hnode <;> rfl

theorem locate_eq (h : here.Alike there) (p : Path) : there.locate p = here.locate p := by
  rw [locate, locate, h.folder, funext fun names => funext (h.step_eq names)]

theorem find_ok (h : here.Alike there) {p : Path} {names : List Name} {node : FileTree.Node}
    (hfind : here.find p = .ok (names, node))
    : ∃ node', there.find p = .ok (names, node') ∧ node'.bare = node.bare := by
  have hnode := h.node? names
  rw [node?_of_find hfind] at hnode
  cases hthere : there.tree.node? names with
  | none =>
    rw [hthere] at hnode
    cases hnode
  | some node' =>
    rw [hthere] at hnode
    refine ⟨node', find_of_locate ?_ hthere, Option.some.inj hnode⟩
    rw [h.locate_eq]
    exact Place.find_ok hfind

theorem hasPath_eq (h : here.Alike there) (p : Path) : there.hasPath p = here.hasPath p := by
  rw [Bool.eq_iff_iff, hasPath_iff, hasPath_iff]
  constructor
  · rintro ⟨names, node, hfind⟩
    obtain ⟨node', hfind', -⟩ := h.symm.find_ok hfind
    exact ⟨names, node', hfind'⟩
  · rintro ⟨names, node, hfind⟩
    obtain ⟨node', hfind', -⟩ := h.find_ok hfind
    exact ⟨names, node', hfind'⟩

theorem leadsToFolder (h : here.Alike there) {p : Path} (hfolder : here.LeadsToFolder p)
    : there.LeadsToFolder p := by
  obtain ⟨names, hfind⟩ := leadsToFolder_iff.1 hfolder
  obtain ⟨node, hfind', hbare⟩ := h.find_ok hfind
  cases node with
  | folder => exact leadsToFolder_iff.2 ⟨names, hfind'⟩
  | file content => cases hbare
  | device kind => cases hbare
  | program name => cases hbare

end Alike

/-! The files below a path. -/

/--
A regular file stands at or below a path; its own path is that path and the names behind it.
-/
def HasBelow (here : Place) (r f : Path) : Prop :=
  ∃ names node behind content, here.find r = .ok (names, node)
    ∧ here.tree.nodes.find? (names ++ behind) = some (.file content)
    ∧ f = behind.foldl (fun path name => path.join ⟨name⟩) r

variable {here there : Place} {r s f : Path}

theorem mem_filesBelow_iff : f ∈ here.filesBelow r ↔ here.HasBelow r f := by
  rw [filesBelow, HasBelow]
  cases here.find r with
  | error e =>
    constructor
    · intro h
      cases h
    · rintro ⟨names, node, behind, content, h, -⟩
      cases h
  | ok found =>
    obtain ⟨names, node⟩ := found
    dsimp only
    rw [List.mem_map]
    constructor
    · rintro ⟨behind, hbehind, rfl⟩
      rw [FileTree.filesBelow, List.mem_filterMap] at hbehind
      obtain ⟨⟨place, node'⟩, hentry, hbehind⟩ := hbehind
      dsimp only at hbehind
      split at hbehind
      · next content =>
        rw [List.isPrefixOf?_eq_some_iff_append_eq] at hbehind
        exact ⟨names, node, behind, content, rfl,
          (Table.find?_eq_some_iff _ _ _).2 (hbehind ▸ hentry), rfl⟩
      · cases hbehind
    · rintro ⟨names', node', behind, content, hfound, hentry, rfl⟩
      cases hfound
      refine ⟨behind, List.mem_filterMap.2 ⟨_, (Table.find?_eq_some_iff _ _ _).1 hentry, ?_⟩, rfl⟩
      exact List.isPrefixOf?_eq_some_iff_append_eq.2 rfl

theorem HasBelow.hasPath (h : here.HasBelow r f) : here.hasPath r = true := by
  obtain ⟨names, node, -, -, hfind, -⟩ := h
  exact hasPath_iff.2 ⟨names, node, hfind⟩

theorem HasBelow.of_same (h : here.HasBelow r f) (hsame : r.same s = true)
    (hs : here.hasPath s = true) : ∃ g, here.HasBelow s g ∧ g.same f = true := by
  have hfind := find_eq_of_hasPath hsame h.hasPath hs
  obtain ⟨names, node, behind, content, hr, hentry, rfl⟩ := h
  refine ⟨_, ⟨names, node, behind, content, hfind ▸ hr, hentry, rfl⟩, ?_⟩
  exact Path.same_foldl_join (Path.same_symm hsame) behind

theorem HasBelow.of_alike (h : here.HasBelow r f) (halike : here.Alike there)
    : there.HasBelow r f := by
  obtain ⟨names, node, behind, content, hr, hentry, rfl⟩ := h
  obtain ⟨node', hr', -⟩ := halike.find_ok hr
  have hnode := halike.nodes (names ++ behind)
  rw [hentry] at hnode
  cases hthere : there.tree.nodes.find? (names ++ behind) with
  | none =>
    rw [hthere] at hnode
    cases hnode
  | some node'' =>
    rw [hthere] at hnode
    cases node'' with
    | file content' => exact ⟨names, node', behind, content', hr', hthere, rfl⟩
    | folder => cases hnode
    | device kind => cases hnode
    | program name => cases hnode

end Place

namespace Workspace

/-! The source roots. -/

/--
The source roots as they are named, by the settings and then by the build information. Where none
is named it is the root.
-/
def namedRoots (root : Path) (sourcePaths : List String) : List Path :=
  if sourcePaths = [] then [root] else sourcePaths.map fun p => root.join (.ofText p)

theorem mem_namedRoots_congr {sourcePaths sourcePaths' : List String}
    (h : ∀ p, p ∈ sourcePaths' ↔ p ∈ sourcePaths) (root r : Path)
    : r ∈ namedRoots root sourcePaths' ↔ r ∈ namedRoots root sourcePaths := by
  have hnil : sourcePaths' = [] ↔ sourcePaths = [] := by
    rw [List.eq_nil_iff_forall_not_mem, List.eq_nil_iff_forall_not_mem]
    exact forall_congr' fun p => not_congr (h p)
  rw [namedRoots, namedRoots]
  by_cases hempty : sourcePaths = []
  · rw [if_pos hempty, if_pos (hnil.2 hempty)]
  · rw [if_neg hempty, if_neg (mt hnil.1 hempty), List.mem_map, List.mem_map]
    exact exists_congr fun p => and_congr_left fun _ => h p

theorem mem_foldl_distinct {paths kept : List Path} {r : Path}
    : r ∈ paths.foldl (fun kept p => if kept.any (·.same p) then kept else kept ++ [p]) kept
        ↔ r ∈ kept ∨ (kept.any (·.same r) = false ∧ paths.find? (·.same r) = some r) := by
  -- The next path is kept unless it is the same as one that is, so what is kept varies.
  induction paths generalizing kept with
  | nil => simp
  | cons p paths ih =>
    rw [List.foldl_cons, ih]
    by_cases hpr : p.same r = true
    · have hany : kept.any (·.same p) = kept.any (·.same r) := by
        simp only [Path.same, Path.same_iff.1 hpr]
      rw [List.find?_cons, hpr, hany]
      split
      · next hkept => simp [hkept]
      · next hkept => simp [hpr, hkept, eq_comm]
    · have hne : r ≠ p := by
        rintro rfl
        exact hpr r.same_refl
      rw [List.find?_cons, Bool.eq_false_iff.2 hpr]
      split
      · rfl
      · simp [hpr, hne]

theorem mem_distinct_iff {paths : List Path} {r : Path}
    : r ∈ distinct paths ↔ paths.find? (·.same r) = some r := by
  rw [distinct, mem_foldl_distinct]
  simp

theorem rootsOf_eq (root : Path) (sourcePaths : List String)
    : rootsOf root sourcePaths = distinct (namedRoots root sourcePaths) := by
  rw [rootsOf, namedRoots]
  cases sourcePaths with
  | nil => rfl
  | cons p sourcePaths =>
    rw [if_neg (List.cons_ne_nil _ _)]
    split
    · next h =>
      have hfirst : root.join (.ofText p)
          ∈ distinct ((p :: sourcePaths).map fun p => root.join (.ofText p)) := by
        rw [mem_distinct_iff, List.map_cons, List.find?_cons, Path.same_refl]
      rw [h] at hfirst
      cases hfirst
    · rfl

/--
Is the first of the source roots that are the same path there? It is the one that is looked at.
-/
def searches (here : Place) (roots : List Path) (r : Path) : Bool :=
  (roots.find? (·.same r)).any here.hasPath

/--
A source root that is no folder is there under each of the paths that name it.
-/
def NamesFiles (here : Place) (roots : List Path) : Prop :=
  ∀ r ∈ roots, ∀ s ∈ roots, r.same s = true → here.hasPath r = true →
    here.LeadsToFolder r ∨ here.hasPath s = true

instance (here : Place) (roots : List Path) : Decidable (NamesFiles here roots) :=
  inferInstanceAs (Decidable (∀ r ∈ roots, ∀ s ∈ roots, r.same s = true → here.hasPath r = true →
    here.LeadsToFolder r ∨ here.hasPath s = true))

/-! The files. -/

/--
The path is one of a Java file at or below a source root, and no glob leaves it out.
-/
structure IsSource (here : Place) (project : Project) (r f : Path) : Prop where
  below : here.HasBelow r f
  java : f.extension? = some "java"
  kept : ∀ glob ∈ project.settings.sources.exclude,
    globMatch glob (project.root.relativeTo f) = false

/--
The files are those of the source roots, in order and each once.
-/
structure Finds (here : Place) (project : Project) (roots files : List Path) : Prop where
  increasing : files.Pairwise fun p q => p.le q = true ∧ p.same q = false
  sound : ∀ f ∈ files, ∃ r ∈ roots, IsSource here project r f
  complete : ∀ r ∈ roots, ∀ f, IsSource here project r f → ∃ g ∈ files, g.same f = true

variable {here there : Place} {project project' : Project} {roots roots' files files' : List Path}
  {r s f : Path}

theorem wants_iff : wants project f = true
    ↔ f.extension? = some "java" ∧ ∀ glob ∈ project.settings.sources.exclude,
        globMatch glob (project.root.relativeTo f) = false := by
  rw [wants, Bool.and_eq_true, beq_iff_eq, SourceSettings.excludes]
  simp

theorem wants_of_same {g : Path} (h : g.same f = true) : wants project g = wants project f := by
  rw [wants, wants, Path.extension?_eq_of_same h, Path.relativeTo_eq_of_same _ h]

theorem isSource_iff : IsSource here project r f ↔ here.HasBelow r f ∧ wants project f = true := by
  rw [wants_iff]
  exact ⟨fun h => ⟨h.below, h.java, h.kept⟩, fun h => ⟨h.1, h.2.1, h.2.2⟩⟩

theorem IsSource.of_same (h : IsSource here project r f) (hsame : r.same s = true)
    (hs : here.hasPath s = true) : ∃ g, IsSource here project s g ∧ g.same f = true := by
  obtain ⟨hbelow, hwants⟩ := isSource_iff.1 h
  obtain ⟨g, hg, hgf⟩ := hbelow.of_same hsame hs
  exact ⟨g, isSource_iff.2 ⟨hg, (wants_of_same hgf).trans hwants⟩, hgf⟩

theorem IsSource.of_alike (h : IsSource here project r f) (halike : here.Alike there)
    (hroot : project'.root = project.root)
    (hexclude : project'.settings.sources.exclude = project.settings.sources.exclude)
    : IsSource there project' r f where
  below := h.below.of_alike halike
  java := h.java
  kept := by
    rw [hroot, hexclude]
    exact h.kept

theorem finds_filesBelow (here : Place) (project : Project) (roots : List Path)
    : Finds here project roots (filesBelow here project roots) where
  increasing := increasing_filesBelow here project roots
  sound := by
    intro f hf
    have hf := (dropRepeats_sublist _).mem hf
    rw [List.mem_mergeSort, List.mem_filter, List.mem_flatMap] at hf
    obtain ⟨⟨r, hr, hbelow⟩, hwants⟩ := hf
    exact ⟨r, hr, isSource_iff.2 ⟨Place.mem_filesBelow_iff.1 hbelow, hwants⟩⟩
  complete := by
    intro r hr f hf
    obtain ⟨hbelow, hwants⟩ := isSource_iff.1 hf
    apply exists_mem_dropRepeats
    rw [List.mem_mergeSort, List.mem_filter, List.mem_flatMap]
    exact ⟨⟨r, hr, Place.mem_filesBelow_iff.2 hbelow⟩, hwants⟩

namespace Finds

theorem of_roots (h : Finds here project roots files)
    (hsub : ∀ r ∈ roots, ∀ f, IsSource here project r f →
      ∃ s ∈ roots', IsSource here project s f)
    (hsup : ∀ r ∈ roots', ∀ f, IsSource here project r f →
      ∃ s ∈ roots, ∃ g, IsSource here project s g ∧ g.same f = true)
    : Finds here project roots' files where
  increasing := h.increasing
  sound := by
    intro f hf
    obtain ⟨r, hr, hsource⟩ := h.sound f hf
    exact hsub r hr f hsource
  complete := by
    intro r hr f hf
    obtain ⟨s, hs, g, hg, hgf⟩ := hsup r hr f hf
    obtain ⟨first, hfirst, hsame⟩ := h.complete s hs g hg
    exact ⟨first, hfirst, Path.same_trans hsame hgf⟩

theorem mem_components_iff (h : Finds here project roots files) {components : List Path.Component}
    : components ∈ files.map Path.components
        ↔ ∃ r ∈ roots, ∃ f, IsSource here project r f ∧ f.components = components := by
  rw [List.mem_map]
  constructor
  · rintro ⟨f, hf, rfl⟩
    obtain ⟨r, hr, hsource⟩ := h.sound f hf
    exact ⟨r, hr, f, hsource, rfl⟩
  · rintro ⟨r, hr, f, hsource, rfl⟩
    obtain ⟨g, hg, hsame⟩ := h.complete r hr f hsource
    exact ⟨g, hg, Path.same_iff.1 hsame⟩

theorem pairwise_components (h : Finds here project roots files)
    : (files.map Path.components).Pairwise fun a b => Path.componentsLe a b = true ∧ a ≠ b := by
  rw [List.pairwise_map]
  refine h.increasing.imp ?_
  rintro p q ⟨hle, hsame⟩
  refine ⟨hle, fun heq => ?_⟩
  rw [Path.same_iff.2 heq] at hsame
  cases hsame

theorem components_eq (h : Finds here project roots files) (h' : Finds here project roots files')
    : files'.map Path.components = files.map Path.components := by
  have hperm : (files'.map Path.components).Perm (files.map Path.components) := by
    rw [List.perm_ext_iff_of_nodup (h'.pairwise_components.imp And.right)
      (h.pairwise_components.imp And.right)]
    intro components
    rw [h.mem_components_iff, h'.mem_components_iff]
  refine List.Perm.eq_of_pairwise ?_ (h'.pairwise_components.imp And.left)
    (h.pairwise_components.imp And.left) hperm
  intro a b _ _ hab hba
  exact Path.componentsLe_antisymm hab hba

theorem of_alike (h : Finds there project' roots' files) (halike : there.Alike here)
    (hroot : project.root = project'.root)
    (hexclude : project.settings.sources.exclude = project'.settings.sources.exclude)
    (hroots : ∀ r, r ∈ roots ↔ r ∈ roots') : Finds here project roots files where
  increasing := h.increasing
  sound := by
    intro f hf
    obtain ⟨r, hr, hsource⟩ := h.sound f hf
    exact ⟨r, (hroots r).2 hr, hsource.of_alike halike hroot hexclude⟩
  complete := by
    intro r hr f hf
    exact h.complete r ((hroots r).1 hr) f
      (hf.of_alike halike.symm hroot.symm hexclude.symm)

end Finds

/-! The finding of the files of a project. -/

theorem NamesFiles.searches (h : NamesFiles here roots) (hr : r ∈ roots)
    (hpath : here.hasPath r = true) : searches here roots r = true := by
  rw [Workspace.searches]
  cases hfirst : roots.find? (·.same r) with
  | none => exact absurd r.same_refl (List.find?_eq_none.1 hfirst r hr)
  | some s =>
    rw [Option.any_some]
    have hs : s ∈ roots := List.mem_of_find?_eq_some hfirst
    have hsame : r.same s = true :=
      Path.same_symm (List.find?_some (p := fun q : Path => q.same r) hfirst)
    obtain hfolder | hpath := h r hr s hs hsame hpath
    · obtain ⟨names, hfolder⟩ := Place.leadsToFolder_iff.1 hfolder
      exact Place.hasPath_iff.2 ⟨names, .folder, Place.find_folder_of_same hsame hfolder⟩
    · exact hpath

theorem finds_rootsOf (here : Place) (project : Project) (sourcePaths : List String)
    : Finds here project
        ((namedRoots project.root sourcePaths).filter
          (searches here (namedRoots project.root sourcePaths)))
        (filesBelow here project (rootsOf project.root sourcePaths)) := by
  refine (finds_filesBelow here project _).of_roots ?_ ?_
  · intro r hr f hf
    rw [rootsOf_eq, mem_distinct_iff] at hr
    refine ⟨r, List.mem_filter.2 ⟨List.mem_of_find?_eq_some hr, ?_⟩, hf⟩
    rw [searches, hr]
    exact hf.below.hasPath
  · intro r hr f hf
    obtain ⟨-, hsearched⟩ := List.mem_filter.1 hr
    rw [searches] at hsearched
    cases hfirst : (namedRoots project.root sourcePaths).find? (·.same r) with
    | none =>
      rw [hfirst] at hsearched
      cases hsearched
    | some s =>
      rw [hfirst] at hsearched
      have hsame := List.find?_some hfirst
      refine ⟨s, ?_, hf.of_same (Path.same_symm hsame) hsearched⟩
      rw [rootsOf_eq, mem_distinct_iff, ← hfirst]
      simp only [Path.same, Path.same_iff.1 hsame]

/--
Two projects with the same root and the same source roots in any order and number, in places that
have the same files. The source roots may come from the settings or from the build information.
-/
structure Rearranged (host host' : Host) (project project' : Project) (info info' : BuildInfo)
    : Prop where
  known : buildInfo host' project' = .ok info'
  alike : (placeAfter host project).Alike (placeAfter host' project')
  root : project'.root = project.root
  exclude : project'.settings.sources.exclude = project.settings.sources.exclude
  sourcePaths : ∀ p, p ∈ project'.settings.sources.sourcePaths ++ info'.sourcePaths
    ↔ p ∈ project.settings.sources.sourcePaths ++ info.sourcePaths

theorem NamesFiles.of_alike (h : NamesFiles here roots) (halike : here.Alike there)
    (hroots : ∀ r, r ∈ roots' ↔ r ∈ roots) : NamesFiles there roots' := by
  intro r hr s hs hsame hpath
  rw [halike.hasPath_eq] at hpath ⊢
  obtain hfolder | hpath := h r ((hroots r).1 hr) s ((hroots s).1 hs) hsame hpath
  · exact .inl (halike.leadsToFolder hfolder)
  · exact .inr hpath

theorem NamesFiles.finds {sourcePaths : List String}
    (h : NamesFiles here (namedRoots project.root sourcePaths))
    : Finds here project (namedRoots project.root sourcePaths)
        (filesBelow here project (rootsOf project.root sourcePaths)) := by
  refine (finds_rootsOf here project sourcePaths).of_roots ?_ ?_
  · intro r hr f hf
    exact ⟨r, List.mem_of_mem_filter hr, hf⟩
  · intro r hr f hf
    exact ⟨r, List.mem_filter.2 ⟨hr, h.searches hr hf.below.hasPath⟩, f, hf, f.same_refl⟩

/--
A workspace finds the Java files at and below those of its source roots whose first path is there.
Where each file that is a source root is there under all its paths, all source roots are such, and
the files do not change, up to how they are written, when the source roots are put in another order
or named more often.
-/
theorem discover_finds {host : Host} {project : Project} {info : BuildInfo}
    (hinfo : buildInfo host project = .ok info)
    : let here := placeAfter host project
      let sourcePaths := project.settings.sources.sourcePaths ++ info.sourcePaths
      let roots := namedRoots project.root sourcePaths
      ∃ w, discover host project = .ok w
        ∧ Finds here project (roots.filter (searches here roots)) w.files
        ∧ (NamesFiles here roots → Finds here project roots w.files
          ∧ ∀ host' project' info', Rearranged host host' project project' info info' →
            ∃ w', discover host' project' = .ok w'
              ∧ w'.files.map Path.components = w.files.map Path.components) := by
  dsimp only
  refine ⟨_, by rw [discover, hinfo]; rfl, finds_rootsOf _ _ _, fun hnames => ?_⟩
  refine ⟨hnames.finds, fun host' project' info' h => ?_⟩
  refine ⟨_, by rw [discover, h.known]; rfl, ?_⟩
  have hroots : ∀ r, r ∈ namedRoots project'.root
      (project'.settings.sources.sourcePaths ++ info'.sourcePaths)
        ↔ r ∈ namedRoots project.root
          (project.settings.sources.sourcePaths ++ info.sourcePaths) := by
    rw [h.root]
    exact mem_namedRoots_congr h.sourcePaths project.root
  have hfinds := (hnames.of_alike h.alike hroots).finds
  exact hnames.finds.components_eq
    (hfinds.of_alike h.alike.symm h.root.symm h.exclude.symm fun r => (hroots r).symm)

def hostWith (files : List (List Name)) : Host where
  tree := files.foldl (fun t names => t.putFile names []) {}
  folder := []
  launch _ _ _ := .error .notFound

def projectWith (sourcePaths exclude : List String) : Project where
  root := ⟨"/w"⟩
  settings := { sources := { sourcePaths := sourcePaths, exclude := exclude } }

theorem discover_finds_overlapping
    : let host := hostWith [["w", "a", "X.java"], ["w", "a", "Skip.java"], ["w", "Y.java"]]
      let project := projectWith ["a", "./a/", "Y.java", ".", "b"] ["**/Skip.java"]
      let project' := projectWith ["b", "a", "./a/", ".", "Y.java", "a"] ["**/Skip.java"]
      NamesFiles host.toPlace (namedRoots ⟨"/w"⟩ ["a", "./a/", "Y.java", ".", "b"])
        ∧ ∃ w w', discover host project = .ok w ∧ discover host project' = .ok w'
          ∧ Finds host.toPlace project (namedRoots ⟨"/w"⟩ ["a", "./a/", "Y.java", ".", "b"]) w.files
          ∧ w'.files.map Path.components = w.files.map Path.components := by
  intro host project project'
  have hnames : NamesFiles host.toPlace (namedRoots ⟨"/w"⟩ ["a", "./a/", "Y.java", ".", "b"]) := by
    decide +kernel
  obtain ⟨w, hw, -, h⟩ := discover_finds (rfl : buildInfo host project = .ok {})
  obtain ⟨hfinds, hrearranged⟩ := h hnames
  obtain ⟨w', hw', hfiles⟩ := hrearranged host project' {}
    { known := rfl
      alike := Place.Alike.refl _
      root := rfl
      exclude := rfl
      sourcePaths := by
        intro p
        simp only [project, project', projectWith, List.append_nil, List.mem_cons,
          List.not_mem_nil]
        tauto }
  exact ⟨hnames, w, w', hw, hw', hfinds, hfiles⟩

/--
Of two paths that are the same the first leads nowhere, since it ends in a slash. The file at the
second is not found, unless it is named first.
-/
theorem discover_misses_file
    : let host := hostWith [["w", "X.java"]]
      let project := projectWith ["X.java/", "X.java"] []
      let project' := projectWith ["X.java", "X.java/"] []
      Rearranged host host project project' {} {}
        ∧ ∃ w w', discover host project = .ok w ∧ discover host project' = .ok w'
          ∧ ¬ Finds host.toPlace project (namedRoots ⟨"/w"⟩ ["X.java/", "X.java"]) w.files
          ∧ w'.files.map Path.components ≠ w.files.map Path.components := by
  intro host project project'
  refine ⟨⟨rfl, Place.Alike.refl _, rfl, rfl, fun p => ?_⟩, ?_⟩
  · simp only [project, project', projectWith, List.append_nil, List.mem_cons, List.not_mem_nil]
    tauto
  · have hw : discover host project = .ok ⟨⟨"/w"⟩, [⟨"/w/X.java/"⟩], [], []⟩ := by decide +kernel
    have hw' : discover host project' = .ok ⟨⟨"/w"⟩, [⟨"/w/X.java"⟩], [], [⟨"/w/X.java"⟩]⟩ := by
      decide +kernel
    refine ⟨_, _, hw, hw', fun h => ?_, by decide +kernel⟩
    have hbelow : host.HasBelow ⟨"/w/X.java"⟩ ⟨"/w/X.java"⟩ :=
      ⟨["w", "X.java"], .file [], [], [], by decide +kernel, by decide +kernel, rfl⟩
    obtain ⟨g, hg, -⟩ := h.complete ⟨"/w/X.java"⟩ (by decide +kernel) ⟨"/w/X.java"⟩
      (isSource_iff.2 ⟨hbelow, by decide +kernel⟩)
    cases hg

end Workspace

end DeprecatedUse
