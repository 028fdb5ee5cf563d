import DeprecatedUse.Proofs.Index.Replacement
import DeprecatedUse.Proofs.Workspace.Files

/-!
This module contains what the index holds once a document was saved, compared with an index that is
built anew from the disk. The two agree where the workspace finds the file under the path of the
document and no other file gets or loses a type by the change. They never agree where the file is
found under another path or left out.
-/

namespace DeprecatedUse

open DeprecatedUse.Java (SourceUnit)
open DeprecatedUse.Java.SourceUnit (parse_ofTokens)

namespace Editor

namespace Session

theorem index_analyze (s : Session) (uri : Uri) (force : Bool)
    : (s.analyze uri force).1.index = s.index := by
  rw [analyze]
  split
  · rfl
  · dsimp only
    split <;> rfl

theorem index_analyzeOpen (s : Session) : s.analyzeOpen.1.index = s.index := by
  rw [analyzeOpen]
  refine List.foldlRecOn (motive := fun after : Session × List Output => after.1.index = s.index)
    _ _ rfl ?_
  intro after hafter uri _
  exact (index_analyze after.1 uri true).trans hafter

theorem index_saved {s : Session} {uri : Uri} {told : Option String} {d : Document} {path : Path}
    {u : SourceUnit} (hopen : (s.setSaved uri told).documents.find? uri = some d)
    (hpath : uri.filePath? = some path) (hparse : SourceUnit.parse path.text d.text = .ok u)
    : (s.saved uri told).1.index = s.index.add u := by
  have hindex : (s.setSaved uri told).index = s.index := by
    cases told <;> rfl
  have hunit : unitOf uri = path.text := by
    rw [unitOf, hpath]
  rw [saved, hopen]
  dsimp only
  rw [index_analyzeOpen, refresh, hpath, hunit, hparse]
  dsimp only
  rw [hindex]

end Session

/--
A document that was saved. The index knew what the disk held before, and the disk holds the text of
the document now.
-/
structure Save where
  project : Project
  before : Host
  now : Host
  session : Session
  uri : Uri
  told : Option String
  path : Path
  document : Document
  unit : SourceUnit
  foundBefore : Workspace
  foundNow : Workspace
  isFile : uri.filePath? = some path
  isOpen : (session.setSaved uri told).documents.find? uri = some document
  isWritten : (Workspace.placeAfter now project).readText path = .ok document.text
  isRead : SourceUnit.parse path.text document.text = .ok unit
  finds : Workspace.discover before project = .ok foundBefore
  findsNow : Workspace.discover now project = .ok foundNow
  isApart : Path.ShownApart foundBefore.files
  isApartNow : Path.ShownApart foundNow.files
  knows : session.index.Alike
    (.ofUnits (foundBefore.loadUnits (Workspace.placeAfter before project)).1)

namespace Save

variable (save : Save)

def index : Index :=
  (save.session.saved save.uri save.told).1.index

def unitBefore? : Path → Option SourceUnit :=
  Workspace.unit? (Workspace.placeAfter save.before save.project)

def unitNow? : Path → Option SourceUnit :=
  Workspace.unit? (Workspace.placeAfter save.now save.project)

def unitsBefore : List SourceUnit :=
  save.foundBefore.files.filterMap save.unitBefore?

def unitsNow : List SourceUnit :=
  save.foundNow.files.filterMap save.unitNow?

/--
The workspace finds the file between these others, which are as they were.
-/
structure Between (front back : List Path) : Prop where
  now : save.foundNow.files = front ++ save.path :: back
  before : save.foundBefore.files = front ++ back
    ∨ save.foundBefore.files = front ++ save.path :: back
  same : ∀ file, file ∈ front ++ back → save.unitNow? file = save.unitBefore? file

def Declared (files : List Path) (type : String) : Prop :=
  ∃ file, file ∈ files ∧ ∃ v, save.unitNow? file = some v ∧ type ∈ v.typeNames

/--
No other file gets or loses a type by the save.
-/
structure Undisturbed (front back : List Path) : Prop where
  gets : ∀ type, type ∈ save.unit.typeNames → ¬ save.Declared back type
  loses : save.path ∈ save.foundBefore.files → ∀ v, save.unitBefore? save.path = some v →
    ∀ type, type ∈ v.typeNames → type ∉ save.unit.typeNames →
      save.Declared back type ∨ ¬ save.Declared front type

theorem index_eq : save.index = save.session.index.add save.unit :=
  Session.index_saved save.isOpen save.isFile save.isRead

theorem buildIndex_eq : ∃ failures, Session.buildIndex save.now save.project
    = .ok (.ofUnits save.unitsNow, failures) := by
  rw [Session.buildIndex, save.findsNow, unitsNow, unitNow?, ← Workspace.units_loadUnits]
  exact ⟨_, rfl⟩

theorem knows_ofUnits : save.session.index.Alike (.ofUnits save.unitsBefore) := by
  have hknows := save.knows
  rw [Workspace.units_loadUnits] at hknows
  exact hknows

theorem distinct_unitsBefore : Index.Distinct save.unitsBefore :=
  Workspace.distinct_units save.finds save.isApart _

theorem distinct_unitsNow : Index.Distinct save.unitsNow :=
  Workspace.distinct_units save.findsNow save.isApartNow _

theorem unitNow?_path : save.unitNow? save.path = some save.unit :=
  Workspace.unit?_of_parse save.isWritten save.isRead

theorem named_index : save.index.Named := by
  rw [index_eq]
  refine (save.knows_ofUnits.named (Index.named_ofUnits fun u hu => ?_)).add save.isRead
  obtain ⟨file, -, hfile⟩ := List.mem_filterMap.1 hu
  obtain ⟨text, -, hparse⟩ := Workspace.unit?_some hfile
  exact ⟨_, text, hparse⟩

namespace Between

variable {save} {front back : List Path}

theorem unitsNow_eq (h : save.Between front back)
    : save.unitsNow
        = front.filterMap save.unitNow? ++ save.unit :: back.filterMap save.unitNow? := by
  rw [unitsNow, h.now, List.filterMap_append, List.filterMap_cons_some save.unitNow?_path]

theorem not_mem (h : save.Between front back) : save.path ∉ front ++ back := by
  have hnodup := Workspace.nodup_files save.findsNow
  rw [h.now, List.nodup_middle, List.nodup_cons] at hnodup
  exact hnodup.1

theorem exists_gone (h : save.Between front back)
    : ∃ gone : Option SourceUnit,
        (∀ v, gone = some v
            ↔ save.path ∈ save.foundBefore.files ∧ save.unitBefore? save.path = some v)
          ∧ save.unitsBefore = front.filterMap save.unitNow?
              ++ (gone.toList ++ back.filterMap save.unitNow?) := by
  have hfront : front.filterMap save.unitBefore? = front.filterMap save.unitNow? :=
    List.filterMap_congr fun file hfile => (h.same file (List.mem_append_left back hfile)).symm
  have hback : back.filterMap save.unitBefore? = back.filterMap save.unitNow? :=
    List.filterMap_congr fun file hfile => (h.same file (List.mem_append_right front hfile)).symm
  rw [unitsBefore]
  obtain hbefore | hbefore := h.before
  · refine ⟨none, fun v => ?_, ?_⟩
    · rw [hbefore]
      simp [h.not_mem]
    · rw [hbefore, List.filterMap_append, hfront, hback]
      rfl
  · refine ⟨save.unitBefore? save.path, fun v => ?_, ?_⟩
    · rw [hbefore]
      simp
    · rw [hbefore, List.filterMap_append, hfront, List.filterMap_cons, hback]
      cases save.unitBefore? save.path <;> rfl

end Between

theorem declared_iff (files : List Path) (type : String)
    : save.Declared files type
        ↔ ∃ v, v ∈ files.filterMap save.unitNow? ∧ type ∈ v.typeNames := by
  constructor
  · rintro ⟨file, hfile, v, hv, htype⟩
    exact ⟨v, List.mem_filterMap.2 ⟨file, hfile, hv⟩, htype⟩
  · rintro ⟨v, hv, htype⟩
    obtain ⟨file, hfile, hv⟩ := List.mem_filterMap.1 hv
    exact ⟨file, hfile, v, hv, htype⟩

theorem alike_iff {front back : List Path} (h : save.Between front back)
    : save.index.Alike (.ofUnits save.unitsNow) ↔ save.Undisturbed front back := by
  obtain ⟨gone, hgone, hbefore⟩ := h.exists_gone
  have hdistinct := save.distinct_unitsNow
  have hknows := save.knows_ofUnits.add save.unit
  rw [h.unitsNow_eq] at hdistinct ⊢
  rw [hbefore] at hknows
  have hid : ∀ v, gone = some v → v.id = save.unit.id := by
    intro v hv
    rw [Workspace.id_of_unit? ((hgone v).1 hv).2, Workspace.id_of_unit? save.unitNow?_path]
  rw [index_eq, hknows.alike_iff, Index.add_alike_iff hdistinct hid]
  -- Both sides speak of the types that the units in front and behind declare.
  constructor
  · rintro ⟨hgets, hloses⟩
    constructor
    · rintro type htype hback
      obtain ⟨w, hw, hdeclares⟩ := (save.declared_iff back type).1 hback
      exact hgets type htype w hw hdeclares
    · intro hpath v hv type htype hnew
      rw [save.declared_iff, save.declared_iff]
      refine (hloses v ((hgone v).2 ⟨hpath, hv⟩) type htype hnew).imp_right ?_
      rintro hnone ⟨w, hw, hdeclares⟩
      exact hnone w hw hdeclares
  · rintro ⟨hgets, hloses⟩
    constructor
    · intro type htype w hw hdeclares
      exact hgets type htype ((save.declared_iff back type).2 ⟨w, hw, hdeclares⟩)
    · intro v hv type htype hnew
      obtain ⟨hpath, hv⟩ := (hgone v).1 hv
      have hkept := hloses hpath v hv type htype hnew
      rw [save.declared_iff, save.declared_iff] at hkept
      refine hkept.imp_right fun hnone w hw hdeclares => ?_
      exact hnone ⟨w, hw, hdeclares⟩

theorem not_answersLike (hnew : ∀ v, v ∈ save.unitsBefore → v.id ≠ save.path.text)
    (hcount : save.unitsNow.length = save.unitsBefore.length)
    : ¬ save.index.AnswersLike (.ofUnits save.unitsNow) := by
  intro hanswers
  have hunits : save.index.units.size = (Index.ofUnits save.unitsNow).units.size :=
    congrArg Index.Stats.units hanswers.stats
  have hid : save.unit.id = save.path.text := Workspace.id_of_unit? save.unitNow?_path
  have hunknown : save.session.index.units.find? save.unit.id = none := by
    rw [save.knows_ofUnits.units, Index.find?_units_ofUnits save.distinct_unitsBefore,
      Option.map_eq_none_iff, List.find?_eq_none]
    intro v hv
    rw [decide_eq_true_eq, hid]
    exact hnew v hv
  rw [index_eq, Index.size_units_add hunknown, save.knows_ofUnits.size_units,
    Index.size_units_ofUnits save.distinct_unitsBefore,
    Index.size_units_ofUnits save.distinct_unitsNow] at hunits
  omega

/--
Where the workspace finds the file under the path of the document, the index holds after a save what
a new index holds exactly if no other file gets or loses a type by it, and then it answers alike.
Where the workspace finds the file under no such path and nothing comes to be found by the save, it
does not: the file is counted once more.
-/
theorem agrees
    : ∃ rebuilt failures,
        Session.buildIndex save.now save.project = .ok (rebuilt, failures)
          ∧ (∀ front back, save.Between front back →
              (save.index.Alike rebuilt ↔ save.Undisturbed front back)
                ∧ (save.Undisturbed front back → save.index.AnswersLike rebuilt))
          ∧ ((∀ v, v ∈ save.unitsBefore → v.id ≠ save.path.text) →
              save.unitsNow.length = save.unitsBefore.length →
              ¬ save.index.AnswersLike rebuilt) := by
  obtain ⟨failures, hbuild⟩ := save.buildIndex_eq
  refine ⟨_, failures, hbuild, fun front back h => ?_, save.not_answersLike⟩
  refine ⟨save.alike_iff h, fun hundisturbed => ?_⟩
  exact ((save.alike_iff h).2 hundisturbed).answersLike save.named_index

/-! Saves of one file. -/

def disk (names : List Name) (text : String) : Host where
  tree := ({} : FileTree).putFile names (Text.Utf8.encode text)
  folder := []
  launch := fun _ _ _ => .error .badWord

def renamed : Save where
  project := { root := ⟨"/w"⟩, settings := { sources := { sourcePaths := ["src"] } } }
  before := disk ["w", "src", "X.java"] "class X {}"
  now := disk ["w", "src", "X.java"] "class Y {}"
  session := {
    index := .ofUnits (Workspace.loadUnits (disk ["w", "src", "X.java"] "class X {}").toPlace
      ⟨⟨"/w"⟩, [⟨"/w/src"⟩], [], [⟨"/w/src/X.java"⟩]⟩).1
    documents := (∅ : Table Uri Document).insert
      ⟨"file", some {}, .segments ["w", "src", "X.java"], none, none⟩ { text := "class X {}" } }
  uri := ⟨"file", some {}, .segments ["w", "src", "X.java"], none, none⟩
  told := some "class Y {}"
  path := ⟨"/w/src/X.java"⟩
  document := { text := "class Y {}" }
  unit := .ofTokens "/w/src/X.java" "class Y {}"
    ((Java.tokenize "class Y {}").toOption.getD [])
  foundBefore := ⟨⟨"/w"⟩, [⟨"/w/src"⟩], [], [⟨"/w/src/X.java"⟩]⟩
  foundNow := ⟨⟨"/w"⟩, [⟨"/w/src"⟩], [], [⟨"/w/src/X.java"⟩]⟩
  isFile := by decide +kernel
  isOpen := by decide +kernel
  isWritten := by decide +kernel
  isRead := by
    have htext : Path.text ⟨"/w/src/X.java"⟩ = "/w/src/X.java" := Path.text_ofText _
    dsimp only
    rw [htext]
    exact parse_ofTokens (by decide +kernel)
  finds := by decide +kernel
  findsNow := by decide +kernel
  isApart := by decide +kernel
  isApartNow := by decide +kernel
  knows := ⟨fun _ => rfl, fun _ => rfl⟩

theorem agrees_renamed
    : renamed.Between [] []
      ∧ renamed.Undisturbed [] []
      ∧ ∃ rebuilt failures,
        Session.buildIndex renamed.now renamed.project = .ok (rebuilt, failures)
          ∧ renamed.index.AnswersLike rebuilt := by
  have hbetween : renamed.Between [] [] := by
    refine ⟨by decide +kernel, .inr (by decide +kernel), fun file hfile => ?_⟩
    cases hfile
  have hundisturbed : renamed.Undisturbed [] [] := by
    constructor
    · rintro type - ⟨file, hfile, -⟩
      cases hfile
    · intro _ v _ type _ _
      right
      rintro ⟨file, hfile, -⟩
      cases hfile
  obtain ⟨rebuilt, failures, hbuild, hagrees, -⟩ := renamed.agrees
  exact ⟨hbetween, hundisturbed, rebuilt, failures, hbuild,
    (hagrees [] [] hbetween).2 hundisturbed⟩

/--
The class of a file is renamed while the path of its folder is written with a dot, or while the file
is left out: the old class is still known after the save in the one case, and the new one is in the
other.
-/
theorem not_agrees_dotted_or_excluded
    : let uri : Uri := ⟨"file", some {}, .segments ["w", "src", "X.java"], none, none⟩
      let before := disk ["w", "src", "X.java"] "class X {}"
      let now := disk ["w", "src", "X.java"] "class Y {}"
      let dotted : Project :=
        { root := ⟨"/w"⟩, settings := { sources := { sourcePaths := ["./src"] } } }
      let excluding : Project :=
        { root := ⟨"/w"⟩, settings := { sources := { exclude := ["src/**"] } } }
      let after := fun project =>
        let built := (Session.buildIndex before project).toOption.getD default
        (Session.saved
          { project := some project, index := built.1
            documents := (∅ : Table Uri Document).insert uri { text := "class X {}" } }
          uri (some "class Y {}")).1.index
      now.toPlace.readText ⟨"/w/src/X.java"⟩ = .ok "class Y {}"
        ∧ (Session.buildIndex before dotted).toOption.isSome = true
        ∧ (after dotted).containsType "X" = true
        ∧ (Session.buildIndex now dotted).toOption.map (·.1.containsType "X") = some false
        ∧ (Session.buildIndex before excluding).toOption.isSome = true
        ∧ (after excluding).containsType "Y" = true
        ∧ (Session.buildIndex now excluding).toOption.map (·.1.containsType "Y") = some false := by
  decide +kernel

end Save

end Editor

end DeprecatedUse
