import DeprecatedUse.Proofs.Toml.Documents
import DeprecatedUse.Wire.Settings

/-!
This module contains the reading of settings that were saved: the document that settings are saved
as holds the same settings, whatever lists are empty and whatever is left out.
-/

namespace DeprecatedUse

namespace Settings

open DeprecatedUse.Toml

/-! Texts that are written as they are. -/

def IsPlainText (text : String) : Prop :=
  ∀ c ∈ text.toList, c ≠ '"' ∧ c ≠ '\'' ∧ c ≠ '\\' ∧ 0x20 ≤ c.toNat ∧ c.toNat ≠ 0x7f

instance (text : String) : Decidable (IsPlainText text) :=
  List.decidableBAll _ text.toList

theorem IsPlainText.isPlain {text : String} (h : IsPlainText text)
    : ∀ c ∈ text.toList, Toml.IsPlain c := by
  intro c hc
  obtain ⟨hquote, -, hbackslash, hlow, hdelete⟩ := h c hc
  refine ⟨hquote, hbackslash, ?_⟩
  rw [Scanner.isPrintable]
  simp [hlow, hdelete]

theorem toList_quoteToml {text : String} (h : IsPlainText text)
    : (quoteToml text).toList = quoted text.toList := by
  have hescape : ∀ c ∈ text.toList, escapeToml c = [c] := by
    intro c hc
    obtain ⟨hquote, -, hbackslash, -⟩ := h c hc
    rw [escapeToml]
    · exact hquote
    · exact hbackslash
  rw [quoteToml, List.flatMap_congr hescape, List.flatMap_singleton', String.ofList_toList,
    String.toList_append, String.toList_append]
  rfl

/-! Lists. -/

theorem toList_listToml {texts : List String} (h : ∀ text ∈ texts, IsPlainText text)
    : (listToml texts).toList = stringArray (texts.map String.toList) := by
  match texts with
  | [] => rfl
  | [text] =>
    rw [listToml, String.toList_append, String.toList_append,
      toList_quoteToml (h text List.mem_cons_self)]
    rfl
  | text :: next :: texts =>
    have hline : ∀ text' ∈ text :: next :: texts,
        ("    " ++ quoteToml text' ++ ",\n").toList
          = "    ".toList ++ quoted text'.toList ++ [',', '\n'] := by
      intro text' htext
      rw [String.toList_append, String.toList_append, toList_quoteToml (h text' htext)]
      rfl
    have hlines : (String.join ((text :: next :: texts).map
        fun s => "    " ++ quoteToml s ++ ",\n")).toList
          = itemLines ((text :: next :: texts).map String.toList) := by
      rw [String.toList_join, List.flatMap_map, itemLines, List.flatMap_map]
      exact List.flatMap_congr hline
    rw [listToml, String.toList_append, String.toList_append, hlines]
    · rfl
    · exact List.cons_ne_nil text (next :: texts)
    · intro _ h
      cases h

/-! Lines. -/

theorem toList_lineToml (key value : String) (v : Value)
    : (lineToml key value).toList = (Entry.mk key value.toList v).line := by
  rw [lineToml, String.toList_append, String.toList_append, String.toList_append, Entry.line,
    List.append_assoc, List.append_assoc]
  rfl

def textsEntry (key : String) (texts : List String) : Entry where
  key := key
  text := (listToml texts).toList
  value := .array (texts.map .string)

def textEntry (key text : String) : Entry where
  key := key
  text := (quoteToml text).toList
  value := .string text

def booleanEntry (key : String) (b : Bool) : Entry where
  key := key
  text := (if b then "true" else "false").toList
  value := .boolean b

variable {key : String}

theorem isReadable_textsEntry (hkey : IsBare key) {texts : List String}
    (h : ∀ text ∈ texts, IsPlainText text) : (textsEntry key texts).IsReadable where
  bare := hkey
  start := by
    obtain ⟨cs, hcs⟩ := exists_stringArray (texts.map String.toList)
    exact ⟨'[', cs, (toList_listToml h).trans hcs, by decide⟩
  read rest := by
    have hplain : ∀ cs ∈ texts.map String.toList, ∀ c ∈ cs, IsPlain c :=
      List.forall_mem_map.2 fun text htext => (h text htext).isPlain
    have hvalue : arrayOf (texts.map String.toList) = .array (texts.map .string) := by
      rw [arrayOf, List.map_map]
      congr 2
      funext text
      exact congrArg Value.string String.ofList_toList
    rw [textsEntry]
    dsimp only
    rw [toList_listToml h, ← hvalue]
    exact value?_stringArray hplain 77 _

theorem isReadable_textEntry (hkey : IsBare key) {text : String} (h : IsPlainText text)
    : (textEntry key text).IsReadable where
  bare := hkey
  start := by
    rw [textEntry, toList_quoteToml h]
    exact ⟨'"', _, rfl, by decide⟩
  read rest := by
    rw [textEntry]
    dsimp only
    have hread := value?_quoted h.isPlain (by decide : '\n' ≠ '"') 78 rest
    rw [String.ofList_toList] at hread
    rw [toList_quoteToml h, quoted_append]
    exact hread

theorem isReadable_booleanEntry (hkey : IsBare key) (b : Bool)
    : (booleanEntry key b).IsReadable where
  bare := hkey
  start := by
    cases b
    · exact ⟨'f', _, rfl, by decide⟩
    · exact ⟨'t', _, rfl, by decide⟩
  read rest := by
    cases b <;> rfl

structure IsPlain (s : Settings) : Prop where
  sourcePaths : ∀ text ∈ s.sources.sourcePaths, IsPlainText text
  buildInfoFile : ∀ text ∈ s.sources.buildInfoFile, IsPlainText text
  buildInfoCommand : ∀ text ∈ s.sources.buildInfoCommand, IsPlainText text
  exclude : ∀ text ∈ s.sources.exclude, IsPlainText text
  ignore : ∀ text ∈ s.check.ignore, IsPlainText text

/-! The document. -/

def sourceEntries (s : SourceSettings) : List Entry :=
  textsEntry "source_paths" s.sourcePaths
    :: (s.buildInfoFile.toList.map (textEntry "build_info_file")
      ++ [textsEntry "build_info_command" s.buildInfoCommand, textsEntry "exclude" s.exclude])

def checkEntries (s : CheckSettings) : List Entry :=
  [booleanEntry "enabled" s.enabled, textEntry "severity" s.severity.word,
    textsEntry "ignore" s.ignore]

def sections (s : Settings) : List Section :=
  [⟨"workspace", sourceEntries s.sources⟩, ⟨"deprecation", checkEntries s.check⟩]

theorem toList_sourceLines (s : SourceSettings)
    : (lineToml "source_paths" (listToml s.sourcePaths)
        ++ (match s.buildInfoFile with
          | none => ""
          | some file => lineToml "build_info_file" (quoteToml file))
        ++ lineToml "build_info_command" (listToml s.buildInfoCommand)
        ++ lineToml "exclude" (listToml s.exclude)).toList
      = (sourceEntries s).flatMap Entry.line := by
  have hfile : (match s.buildInfoFile with
      | none => ""
      | some file => lineToml "build_info_file" (quoteToml file)).toList
        = (s.buildInfoFile.toList.map (textEntry "build_info_file")).flatMap Entry.line := by
    cases s.buildInfoFile with
    | none => rfl
    | some file =>
      rw [Option.toList_some, List.map_singleton, List.flatMap_singleton]
      exact toList_lineToml _ _ _
  rw [sourceEntries, List.flatMap_cons, List.flatMap_append, ← hfile]
  simp only [String.toList_append, List.flatMap_cons, List.flatMap_nil, List.append_nil,
    List.append_assoc]
  rw [toList_lineToml _ _ (.array (s.sourcePaths.map .string)),
    toList_lineToml _ _ (.array (s.buildInfoCommand.map .string)),
    toList_lineToml _ _ (.array (s.exclude.map .string))]
  rfl

theorem toList_checkLines (s : CheckSettings)
    : (lineToml "enabled" (if s.enabled then "true" else "false")
        ++ lineToml "severity" (quoteToml s.severity.word)
        ++ lineToml "ignore" (listToml s.ignore)).toList
      = (checkEntries s).flatMap Entry.line := by
  rw [checkEntries]
  simp only [String.toList_append, List.flatMap_cons, List.flatMap_nil, List.append_nil,
    List.append_assoc]
  rw [toList_lineToml _ _ (.boolean s.enabled), toList_lineToml _ _ (.string s.severity.word),
    toList_lineToml _ _ (.array (s.ignore.map .string))]
  rfl

theorem toToml_eq (s : Settings) : s.toToml = documentText s.sections := by
  have hsources := toList_sourceLines s.sources
  have hcheck := toList_checkLines s.check
  have hworkspace : "[workspace]\n".toList = headerLine "workspace" := rfl
  have hdeprecation : "\n[deprecation]\n".toList = ['\n'] ++ headerLine "deprecation" := rfl
  rw [← String.toList_inj, documentText, String.toList_ofList, sections, List.map_cons,
    List.map_singleton, Text.join_cons, List.flatMap_singleton, Section.text, Section.text]
  dsimp only
  rw [← hsources, ← hcheck]
  unfold toToml
  cases s.sources.buildInfoFile <;>
    simp only [String.toList_append, List.append_assoc, hworkspace, hdeprecation]

theorem isReadable_sourceSection {s : Settings} (h : s.IsPlain)
    : (Section.mk "workspace" (sourceEntries s.sources)).IsReadable where
  bare := (by decide : IsBare "workspace")
  entries := by
    change ∀ e ∈ sourceEntries s.sources, e.IsReadable
    rw [sourceEntries, List.forall_mem_cons, List.forall_mem_append, List.forall_mem_map,
      List.forall_mem_cons, List.forall_mem_singleton]
    refine ⟨isReadable_textsEntry (by decide) h.sourcePaths, fun file hfile => ?_,
      isReadable_textsEntry (by decide) h.buildInfoCommand,
      isReadable_textsEntry (by decide) h.exclude⟩
    exact isReadable_textEntry (by decide)
      (h.buildInfoFile file (Option.mem_toList.1 hfile))
  nodup := by
    change ((sourceEntries s.sources).map Entry.key).Nodup
    rw [sourceEntries]
    cases s.sources.buildInfoFile with
    | none =>
      change ["source_paths", "build_info_command", "exclude"].Nodup
      decide +kernel
    | some file =>
      change ["source_paths", "build_info_file", "build_info_command", "exclude"].Nodup
      decide +kernel

theorem isReadable_checkSection {s : Settings} (h : s.IsPlain)
    : (Section.mk "deprecation" (checkEntries s.check)).IsReadable where
  bare := (by decide : IsBare "deprecation")
  entries := by
    have hseverity : IsPlainText s.check.severity.word := by
      cases s.check.severity <;> decide
    change ∀ e ∈ checkEntries s.check, e.IsReadable
    rw [checkEntries, List.forall_mem_cons, List.forall_mem_cons, List.forall_mem_singleton]
    exact ⟨isReadable_booleanEntry (by decide) _,
      isReadable_textEntry (by decide) hseverity,
      isReadable_textsEntry (by decide) h.ignore⟩
  nodup := (by decide +kernel : ["enabled", "severity", "ignore"].Nodup)

/-! The values. -/

theorem list?_texts (texts : List String)
    : (Value.array (texts.map .string)).list? Value.string? = some texts := by
  rw [Value.list?]
  induction texts with
  | nil => rfl
  | cons text texts ih =>
    rw [List.map_cons, List.mapM_cons, ih]
    rfl

theorem sources_ofToml? (s : SourceSettings)
    : SourceSettings.ofToml? (.table ((sourceEntries s).map Entry.field)) = some s := by
  obtain ⟨sourcePaths, buildInfoFile, buildInfoCommand, exclude⟩ := s
  have hrecord : (Value.table ((sourceEntries ⟨sourcePaths, buildInfoFile, buildInfoCommand,
      exclude⟩).map Entry.field)).record? SourceSettings.fieldNames
        = some [some (.array (sourcePaths.map .string)), buildInfoFile.map .string,
          some (.array (buildInfoCommand.map .string)), some (.array (exclude.map .string))] := by
    cases buildInfoFile <;> rfl
  rw [SourceSettings.ofToml?, hrecord]
  dsimp only [Option.getD_some]
  rw [list?_texts, list?_texts, list?_texts]
  cases buildInfoFile <;> rfl

theorem check_ofToml? (s : CheckSettings)
    : CheckSettings.ofToml? (.table ((checkEntries s).map Entry.field)) = some s := by
  have hrecord : (Value.table ((checkEntries s).map Entry.field)).record? CheckSettings.fieldNames
      = some [some (.boolean s.enabled), some (.string s.severity.word),
        some (.array (s.ignore.map .string))] := rfl
  have hseverity : (Value.string s.severity.word).choice?.bind Severity.ofWord?
      = some s.severity := by
    cases s.severity <;> rfl
  rw [CheckSettings.ofToml?, hrecord]
  dsimp only [Option.getD_some]
  rw [hseverity, list?_texts]
  rfl

/--
Settings whose texts hold no quotes, backslashes and control characters are read back as they were
saved.
-/
theorem ofToml?_toToml {s : Settings} (h : s.IsPlain) : ofToml? s.toToml = some s := by
  have hreadable : ∀ part ∈ s.sections, part.IsReadable := by
    rw [sections, List.forall_mem_cons, List.forall_mem_singleton]
    exact ⟨isReadable_sourceSection h, isReadable_checkSection h⟩
  have hnames : (s.sections.map Section.name).Nodup :=
    (by decide +kernel : ["workspace", "deprecation"].Nodup)
  have hrecord : (Value.table (s.sections.map fun part =>
      (part.name, .table (part.entries.map Entry.field)))).record? ["workspace", "deprecation"]
        = some [some (.table ((sourceEntries s.sources).map Entry.field)),
          some (.table ((checkEntries s.check).map Entry.field))] := rfl
  rw [ofToml?, toToml_eq, parse?_documentText hreadable hnames, Option.bind_some, ofTomlValue?,
    hrecord]
  dsimp only [Option.getD_some]
  rw [sources_ofToml?, check_ofToml?]
  rfl

theorem ofToml?_toToml_marks_in_texts
    : let sources := ⟨["src # main", "", "ä\u2028["], none, [], ["[deprecation]"]⟩
      let s : Settings := ⟨sources, ⟨false, .hint, ["a, b", "]"]⟩⟩
      s.IsPlain ∧ ofToml? s.toToml = some s := by
  intro sources s
  have hplain : s.IsPlain := by
    constructor <;> decide
  exact ⟨hplain, ofToml?_toToml hplain⟩

end Settings

end DeprecatedUse
