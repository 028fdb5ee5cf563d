import DeprecatedUse.Proofs.Editor.Addressing
import DeprecatedUse.Proofs.Editor.Saving

/-!
This module contains what ties a document of the editor to the file that the index was built from.
The path of a source file survives the way to its URI and back, whatever characters it has. So the
document goes by the name that the file has in the index, and once the document is saved the index
holds its declarations in place of those of the file.
-/

namespace DeprecatedUse

open DeprecatedUse.Java (SourceUnit)

/-! Paths and their URIs. -/

namespace Path

/--
An absolute path that is written as its components are joined.
-/
def IsNormal (p : Path) : Prop :=
  ∃ components, p.components = .root :: components ∧ p = ofNames (components.map Component.bytes)

def IsSource (p : Path) : Prop :=
  ∃ front, p.text = front ++ ".java"

theorem IsSource.exists_front {p : Path} (h : p.IsSource) (htext : p.IsText)
    : ∃ front, p.bytes = front ++ [dot, 106, 97, 118, 97] := by
  obtain ⟨front, hfront⟩ := h
  refine ⟨Text.Utf8.bytes front.toList, ?_⟩
  rw [← htext, hfront, Text.Utf8.encode_eq_bytes, String.toList_append, Text.Utf8.bytes_append]
  rfl

theorem IsNormal.exists_parts {p : Path} (h : p.IsNormal) (hroot : p.bytes ≠ [slash])
    : ∃ name names, (∀ part, part ∈ name :: names → Uri.IsPart part)
        ∧ p.bytes = (name :: names).flatMap (slash :: ·) := by
  obtain ⟨components, hcomponents, hp⟩ := h
  rw [hp, ofNames, components_slash, List.cons.injEq] at hcomponents
  -- the names of the components are the parts that the slashes divide off
  have hnames : components.map Component.bytes
      = Uri.partsOf (Text.join [slash] (components.map Component.bytes)) := by
    nth_rewrite 1 [← hcomponents.2]
    rw [List.map_map]
    exact (List.map_congr_left fun part _ => bytes_componentOf part).trans (List.map_id _)
  have hparts : ∀ part, part ∈ components.map Component.bytes → Uri.IsPart part := by
    rw [hnames]
    exact fun part => Uri.isPart_of_mem_partsOf
  cases hcases : components.map Component.bytes with
  | nil =>
    rw [hcases] at hp
    exact absurd (congrArg bytes hp) hroot
  | cons name names =>
    rw [hcases] at hp hparts
    refine ⟨name, names, hparts, ?_⟩
    rw [hp, ofNames, Text.join_cons]
    rfl

end Path

namespace Uri

theorem endsInDrive_of_isSource {p : Path} (h : p.IsSource) (htext : p.IsText)
    : endsInDrive p.bytes = false := by
  obtain ⟨front, hfront⟩ := h.exists_front htext
  rw [endsInDrive, hfront, List.reverse_append]
  rfl

end Uri

namespace Editor

open Uri

theorem exists_unitUri? {p : Path} (h : p.IsNormal) (htext : p.IsText) (hsource : p.IsSource)
    : ∃ u, unitUri? p.text = some u ∧ u.filePath? = some p := by
  have hdrive := endsInDrive_of_isSource hsource htext
  have hroot : p.bytes ≠ [Path.slash] := by
    obtain ⟨front, hfront⟩ := hsource.exists_front htext
    intro hslash
    have hlength := congrArg List.length (hslash.symm.trans hfront)
    simp at hlength
  obtain ⟨name, names, hparts, hbytes⟩ := h.exists_parts hroot
  refine ⟨plainFile (name :: names), ?_, ?_⟩
  · have hslash := htext.trans hbytes
    rw [List.flatMap_cons, List.cons_append] at hslash
    rw [unitUri?_slash hslash, split_parts hparts (.inl _)]
    rw [List.flatMap_cons, List.cons_append]
  · rw [filePath?_plainFile_cons, ← hbytes, hdrive, if_neg Bool.false_ne_true]

end Editor

/-! Files of the index. -/

namespace Index

/--
The index holds what a unit declares, in place of all that it held of this unit before, and of other
units what it held before.
-/
structure Replaced (before after : Index) (u : SourceUnit) : Prop where
  types : ∀ x, after.types.find? x
    = (u.entry? x).or ((before.types.find? x).filter fun e => e.unit ≠ u.id)
  units : ∀ id, after.units.find? id
    = if id = u.id then some u.typeNames else before.units.find? id

variable {index : Index} {live : List SourceUnit} {last : String → Option SourceUnit}

theorem Tracks.mem_listed (h : Tracks index live last) {x : String} {e : Entry}
    (he : index.types.find? x = some e) : x ∈ (index.units.find? e.unit).getD [] := by
  obtain ⟨v, hv, -, hentry⟩ := (h.types x e).1 he
  rw [SourceUnit.unit_of_entry? hentry, h.units, h.find?_live hv, Option.map_some,
    Option.getD_some, ← SourceUnit.isSome_entry?, hentry]
  rfl

theorem Tracks.find?_types_remove (h : Tracks index live last) (unit : UnitId) (x : String)
    : (index.remove unit).types.find? x
        =
      (index.types.find? x).filter fun e => e.unit ≠ unit := by
  ext e
  rw [Index.find?_types_remove, Option.filter_eq_some_iff, decide_eq_true_iff]
  constructor
  · rintro ⟨he, hkept⟩
    refine ⟨he, fun hunit => hkept ⟨hunit, ?_⟩⟩
    rw [← hunit]
    exact h.mem_listed he
  · rintro ⟨he, hunit⟩
    exact ⟨he, fun hgone => hunit hgone.1⟩

theorem Tracks.replaced_add (h : Tracks index live last) (u : SourceUnit)
    : Replaced index (index.add u) u where
  types x := by
    rw [find?_types_add, h.find?_types_remove]
  units id := by
    have hunits : (index.add u).units = (index.units.erase u.id).insert u.id u.typeNames := rfl
    rw [hunits, Table.find?_insert]
    split
    · rfl
    · next hne => rw [Table.find?_erase, if_neg hne]

end Index

namespace Editor

/-! Saved documents. -/

namespace Session

variable {s : Session}

def IsTracked (s : Session) : Prop :=
  ∃ changes, s.index = Index.run changes

theorem IsTracked.of_index_eq {s' : Session} (h : s.IsTracked) (heq : s'.index = s.index)
    : s'.IsTracked := by
  rwa [IsTracked, heq]

theorem IsTracked.refresh (h : s.IsTracked) (uri : Uri) (text : String)
    : (s.refresh uri text).IsTracked := by
  rw [Session.refresh]
  split
  · next u _ _ =>
    obtain ⟨changes, hchanges⟩ := h
    refine ⟨changes ++ [Index.Change.add u], ?_⟩
    rw [Index.run, List.foldl_append, ← Index.run, ← hchanges]
    rfl
  · exact h

theorem exists_units_of_buildIndex {host : Host} {project : Project} {index : Index}
    {failures : Nat} (h : buildIndex host project = .ok (index, failures))
    : ∃ units, index = Index.ofUnits units := by
  rw [buildIndex] at h
  cases hdiscover : Workspace.discover host project with
  | error e =>
    rw [hdiscover] at h
    cases h
  | ok w =>
    rw [hdiscover] at h
    cases h
    exact ⟨_, rfl⟩

theorem IsTracked.reindex (h : s.IsTracked) (host : Host) : (s.reindex host).1.IsTracked := by
  rw [Session.reindex]
  split
  · exact h
  · split
    · exact h.of_index_eq (index_analyzeOpen s)
    · next index failures hbuild =>
      obtain ⟨units, rfl⟩ := exists_units_of_buildIndex hbuild
      exact ⟨_, (index_analyzeOpen _).trans (Index.ofUnits_eq_run units)⟩

theorem index_setSaved (s : Session) (uri : Uri) (told : Option String)
    : (s.setSaved uri told).index = s.index := by
  cases told <;> rfl

theorem IsTracked.saved (h : s.IsTracked) (uri : Uri) (told : Option String)
    : (s.saved uri told).1.IsTracked := by
  have hset := h.of_index_eq (index_setSaved s uri told)
  rw [Session.saved]
  split
  · exact hset
  · next d _ => exact (hset.refresh uri d.text).of_index_eq (index_analyzeOpen _)

theorem IsTracked.handle (h : s.IsTracked) (host : Host) (message : Incoming)
    : (Server.handle host s message).1.IsTracked := by
  cases message with
  | ready => exact h.reindex host
  | filesChanged => exact h.reindex host
  | opened uri text => exact h.of_index_eq (index_analyze _ uri true)
  | changed uri texts =>
    rw [Server.handle, Session.changed]
    split
    · exact h
    · exact h.of_index_eq (index_analyze _ uri false)
  | saved uri told => exact h.saved uri told
  | closed uri => exact h.of_index_eq rfl
  | _ => exact h

end Session

theorem Talk.Reached.isTracked {messages : List Incoming} {t : Talk} (h : Reached messages t)
    : t.session.IsTracked := by
  induction h with
  | begin here root =>
    refine ⟨[], ?_⟩
    cases root with
    | none => rfl
    | some root =>
      rw [Talk.begin, Session.start]
      split <;> rfl
  | @hear messages t h documents order host message ih =>
    have hsession : (t.withDocuments documents).session.IsTracked := ih.of_index_eq rfl
    exact hsession.handle host message

theorem Session.find?_setSaved {s : Session} {uri : Uri} {d : Document}
    (h : s.documents.find? uri = some d) (told : Option String)
    : (s.setSaved uri told).documents.find? uri
        =
      some { d with text := told.getD d.text } := by
  cases told with
  | none => exact h
  | some text =>
    rw [setSaved, find?_setText, if_pos rfl, h]
    rfl

section

variable {s : Session} {uri : Uri} {d : Document} {p : Path} {told : Option String}

theorem Session.index_saved_ok (hopen : s.documents.find? uri = some d)
    (hpath : uri.filePath? = some p) {u : SourceUnit}
    (hparse : SourceUnit.parse p.text (told.getD d.text) = .ok u)
    : (s.saved uri told).1.index = s.index.add u :=
  index_saved (find?_setSaved hopen told) hpath hparse

theorem Session.index_saved_error (hopen : s.documents.find? uri = some d) {e : Java.ParseError}
    (hparse : SourceUnit.parse (unitOf uri) (told.getD d.text) = .error e)
    : (s.saved uri told).1.index = s.index := by
  rw [saved, find?_setSaved hopen told]
  dsimp only
  rw [index_analyzeOpen, refresh, hparse]
  cases uri.filePath? <;> exact index_setSaved s uri told

end

/-! Source files. -/

/--
The path of a source file survives the way to its URI and back, so no other file has this URI. The
document goes by the name that the file has in the index, and a save puts its declarations in place
of those of the file. A text that cannot be read leaves the index as it was.
-/
theorem unitUri?_source {p : Path} (h : p.IsNormal) (htext : p.IsText) (hsource : p.IsSource)
    : ∃ uri, unitUri? p.text = some uri ∧ unitOf uri = p.text
        ∧ (∀ q : Path, q.IsNormal → q.IsText → q.IsSource → unitUri? q.text = some uri → q = p)
        ∧ (∀ here v, Workspace.readUnit here p = .ok v → v.id = unitOf uri)
        ∧ ∀ messages t, Talk.Reached messages t →
          ∀ d, t.session.documents.find? uri = some d → ∀ host told,
            (∀ u, SourceUnit.parse (unitOf uri) (told.getD d.text) = .ok u →
              u.id = p.text
                ∧ Index.Replaced t.session.index
                  (Server.handle host t.session (.saved uri told)).1.index u)
              ∧ ∀ e, SourceUnit.parse (unitOf uri) (told.getD d.text) = .error e →
                (Server.handle host t.session (.saved uri told)).1.index = t.session.index := by
  obtain ⟨uri, huri, hpath⟩ := exists_unitUri? h htext hsource
  have hunit : unitOf uri = p.text := by
    rw [unitOf, hpath]
  refine ⟨uri, huri, hunit, ?_, ?_, ?_⟩
  · intro q hq hqtext hqsource hquri
    obtain ⟨uri', huri', hpath'⟩ := exists_unitUri? hq hqtext hqsource
    rw [hquri, Option.some.injEq] at huri'
    rw [← huri', hpath, Option.some.injEq] at hpath'
    exact hpath'.symm
  · intro here v hv
    rw [hunit]
    exact Workspace.id_of_unit? (Workspace.unit?_eq_some_iff.2 hv)
  · intro messages t ht d hd host told
    obtain ⟨changes, hchanges⟩ := ht.isTracked
    refine ⟨fun u hu => ?_, fun e he => Session.index_saved_error hd he⟩
    rw [hunit] at hu
    obtain ⟨tokens, -, rfl⟩ := SourceUnit.parse_ok hu
    refine ⟨rfl, ?_⟩
    rw [Server.handle, Session.index_saved_ok hd hpath hu, hchanges]
    exact (Index.tracks_run changes).replaced_add _

def oddPath : Path :=
  ⟨"/w/100%25 #1?\\é😀/../T.java"⟩

def oddUri : Uri where
  scheme := "file"
  authority := some {}
  body := .segments ["w", "100%2525%20%231%3F%5C%C3%A9%F0%9F%98%80", "..", "T.java"]

def oddHost : Host :=
  ⟨default, fun _ _ _ => .error .badWord⟩

def oddTalk : Talk :=
  (Talk.begin default none).hear oddHost (.opened oddUri "class Old {}")

theorem unitUri?_source_odd
    : oddPath.IsNormal ∧ oddPath.IsText ∧ oddPath.IsSource
      ∧ unitUri? oddPath.text = some oddUri ∧ unitOf oddUri = oddPath.text
      ∧ Talk.Reached [.opened oddUri "class Old {}"] oddTalk
      ∧ oddTalk.session.documents.contains oddUri = true
      ∧ (Server.handle oddHost oddTalk.session
          (.saved oddUri (some "class New {}"))).1.index.containsType "New" = true := by
  have hnormal : oddPath.IsNormal :=
    ⟨[.name "w", .name "100%25 #1?\\é😀", .parent, .name "T.java"], by decide +kernel,
      by decide +kernel⟩
  have htext : oddPath.IsText := by decide +kernel
  have hsource : oddPath.IsSource := ⟨"/w/100%25 #1?\\é😀/../T", by decide +kernel⟩
  have hodd : unitUri? oddPath.text = some oddUri := by decide +kernel
  have hreached : Talk.Reached [.opened oddUri "class Old {}"] oddTalk :=
    .hear (.begin default none) (.refl _) oddHost (.opened oddUri "class Old {}")
  have hopen : oddTalk.session.documents.contains oddUri = true := by decide +kernel
  obtain ⟨uri, huri, hunit, -, -, hsaved⟩ := unitUri?_source hnormal htext hsource
  obtain rfl : uri = oddUri := Option.some.inj (huri.symm.trans hodd)
  refine ⟨hnormal, htext, hsource, hodd, hunit, hreached, hopen, ?_⟩
  obtain ⟨d, hd⟩ := Option.isSome_iff_exists.1 hopen
  have hparse : SourceUnit.parse (unitOf oddUri) "class New {}" = .ok _ :=
    SourceUnit.parse_ofTokens (by decide +kernel)
  obtain ⟨-, hreplaced⟩ :=
    (hsaved _ _ hreached d hd oddHost (some "class New {}")).1 _ hparse
  rw [Index.containsType, Table.contains, hreplaced.types, Option.isSome_or, Bool.or_eq_true]
  left
  decide +kernel

end Editor

end DeprecatedUse
