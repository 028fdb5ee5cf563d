import DeprecatedUse.BuildInfo
import DeprecatedUse.Wire.Report
import DeprecatedUse.Wire.Settings
import DeprecatedUse.Wire.Symbol
import DeprecatedUse.Proofs.Json.Records

/-!
This module contains the agreement of the JSON forms with their readers: diagnostics, batches,
references to types, symbols, settings, build information and reports are read back as they were
written. Lines, columns and version numbers have thirty-two bits, and the totals of a report
sixty-four.
-/

namespace DeprecatedUse

open DeprecatedUse.Json (ReadsBack)

/-! Choices between words. -/

theorem Severity.readsBack : ReadsBack (fun _ => True) Severity.toJson Severity.ofJson? := by
  apply ReadsBack.of_all
  intro s
  cases s <;> rfl

theorem Diagnostic.Code.readsBack
    : ReadsBack (fun _ => True) Diagnostic.Code.toJson Diagnostic.Code.ofJson? := by
  apply ReadsBack.of_all
  intro c
  cases c <;> rfl

theorem MemberKind.readsBack : ReadsBack (fun _ => True) MemberKind.toJson MemberKind.ofJson? := by
  apply ReadsBack.of_all
  intro kind
  cases kind <;> rfl

/-! Positions and spans. -/

structure Position.Fits (p : Position) : Prop where
  line : p.line < UInt32.size
  column : p.column < UInt32.size

theorem Position.record?_toJson (p : Position)
    : p.toJson.record? ["line", "column"] = some [some (.nat p.line), some (.nat p.column)] := by
  simp [toJson, Json.record?_obj]

theorem Position.readsBack : ReadsBack Position.Fits Position.toJson Position.ofJson? := by
  apply ReadsBack.of_valid
  · intro p hp
    rw [ofJson?, record?_toJson]
    dsimp only
    rw [(ReadsBack.nat _).bind_write hp.line, (ReadsBack.nat _).bind_write hp.column]
    rfl
  · intro json p h
    unfold ofJson? at h
    split at h
    · simp only [Option.bind_eq_bind, Option.bind_eq_some_iff] at h
      obtain ⟨line, ⟨_, -, hline⟩, column, ⟨_, -, hcolumn⟩, heq⟩ := h
      obtain rfl := Option.some.inj heq
      exact ⟨Json.lt_of_nat? hline, Json.lt_of_nat? hcolumn⟩
    · cases h

structure Span.Fits (s : Span) : Prop where
  start : s.start.Fits
  stop : s.stop.Fits

theorem Span.record?_toJson (s : Span)
    : s.toJson.record? ["start", "end"] = some [some s.start.toJson, some s.stop.toJson] := by
  simp [toJson, Json.record?_obj]

theorem Span.readsBack : ReadsBack Span.Fits Span.toJson Span.ofJson? := by
  apply ReadsBack.of_valid
  · intro s hs
    rw [ofJson?, record?_toJson]
    dsimp only
    rw [Position.readsBack.bind_write hs.start, Position.readsBack.bind_write hs.stop]
    rfl
  · intro json s h
    unfold ofJson? at h
    split at h
    · simp only [Option.bind_eq_bind, Option.bind_eq_some_iff] at h
      obtain ⟨start, ⟨_, -, hstart⟩, stop, ⟨_, -, hstop⟩, heq⟩ := h
      obtain rfl := Option.some.inj heq
      exact ⟨Position.readsBack.valid_of_read hstart, Position.readsBack.valid_of_read hstop⟩
    · cases h

/-! Diagnostics and batches. -/

theorem option?_str (text : Option String)
    : Json.option? Json.str? ((text.map Json.str).getD .null) = some text := by
  rw [← Json.ofOption_eq]
  exact Json.option?_ofOption fun _ _ => ⟨rfl, Json.noConfusion⟩

theorem Diagnostic.record?_toJson (d : Diagnostic)
    : d.toJson.record? ["code", "severity", "message", "span", "source", "symbol"]
        = some [some d.code.toJson, some d.severity.toJson, some (.str d.message),
            some d.span.toJson, some (.str d.source), d.symbol.map .str] := by
  simp [toJson, Json.record?_obj]

theorem Diagnostic.readsBack
    : ReadsBack (fun d => d.span.Fits) Diagnostic.toJson Diagnostic.ofJson? := by
  apply ReadsBack.of_valid
  · intro d hd
    rw [ofJson?, record?_toJson]
    dsimp only
    rw [Code.readsBack.bind_write trivial, Severity.readsBack.bind_write trivial,
      ReadsBack.str.bind_write trivial, Span.readsBack.bind_write hd,
      ReadsBack.str.bind_write trivial, option?_str]
    rfl
  · intro json d h
    unfold ofJson? at h
    split at h
    · simp only [Option.bind_eq_bind, Option.bind_eq_some_iff] at h
      obtain ⟨code, -, severity, -, message, -, span, ⟨_, -, hspan⟩, source, -, symbol, -, heq⟩ := h
      obtain rfl := Option.some.inj heq
      exact Span.readsBack.valid_of_read hspan
    · cases h

theorem Batch.readsBack
    : ReadsBack (fun b => ∀ d, d ∈ b.diagnostics → d.span.Fits) Batch.toJson Batch.ofJson? := by
  have hlist := Diagnostic.readsBack.list
  apply ReadsBack.of_valid
  · intro b hb
    rw [ofJson?, toJson, hlist.read_write hb, Option.map_some]
  · intro json b h
    rw [ofJson?, Option.map_eq_some_iff] at h
    obtain ⟨diagnostics, hread, rfl⟩ := h
    exact hlist.valid_of_read hread

/-! Types and symbols. -/

theorem TypeRef.readsBack : ReadsBack (fun _ => True) TypeRef.toJson TypeRef.ofJson? := by
  apply ReadsBack.of_all
  intro ref
  cases ref with
  | qualified name =>
    simp [toJson, ofJson?, ofKind?, Json.field?, Json.record?_obj, Json.str?]
  | simple name packages =>
    simp [toJson, ofJson?, ofKind?, Json.field?, Json.record?_obj, Json.str?,
      Json.list?_strings]

theorem Symbol.record?_toJson (s : Symbol)
    : s.toJson.record? ["qualified_name", "kind", "deprecated", "replacement", "for_removal"]
        = some [some (.str s.qualifiedName), some s.kind.toJson, some (.bool s.deprecated),
            s.replacement.map .str, some (.bool s.forRemoval)] := by
  simp [toJson, Json.record?_obj, Json.lookup?_append]

theorem Symbol.readsBack : ReadsBack (fun _ => True) Symbol.toJson Symbol.ofJson? := by
  apply ReadsBack.of_all
  intro s
  rw [ofJson?, record?_toJson]
  dsimp only
  rw [ReadsBack.str.bind_write trivial, MemberKind.readsBack.bind_write trivial, option?_str]
  rfl

/-! Settings and build information. -/

theorem CheckSettings.record?_toJson (s : CheckSettings)
    : s.toJson.record? CheckSettings.fieldNames
        = some [some (.bool s.enabled), some s.severity.toJson, some (.strings s.ignore)] := by
  simp [toJson, fieldNames, Json.record?_obj]

theorem CheckSettings.readsBack
    : ReadsBack (fun _ => True) CheckSettings.toJson CheckSettings.ofJson? := by
  apply ReadsBack.of_all
  intro s
  rw [ofJson?, record?_toJson]
  dsimp only
  rw [Option.getD_some, Option.getD_some, Option.getD_some, Severity.readsBack.read_write trivial,
    Json.list?_strings]
  rfl

theorem SourceSettings.record?_toJson (s : SourceSettings)
    : s.toJson.record? SourceSettings.fieldNames
        = some [some (.strings s.sourcePaths), some (Json.ofOption .str s.buildInfoFile),
            some (.strings s.buildInfoCommand), some (.strings s.exclude)] := by
  simp [toJson, fieldNames, Json.record?_obj]

theorem SourceSettings.readsBack
    : ReadsBack (fun _ => True) SourceSettings.toJson SourceSettings.ofJson? := by
  apply ReadsBack.of_all
  intro s
  rw [ofJson?, record?_toJson]
  dsimp only
  simp only [Option.getD_some, Json.ofOption_eq, option?_str, Json.list?_strings,
    Option.bind_eq_bind, Option.bind_some]
  rfl

theorem BuildInfo.record?_toJson (info : BuildInfo)
    : info.toJson.record? BuildInfo.fieldNames
        = some [some (.strings info.sourcePaths), some (.strings info.classPaths)] := by
  simp [toJson, fieldNames, Json.record?_obj]

theorem BuildInfo.readsBack : ReadsBack (fun _ => True) BuildInfo.toJson BuildInfo.ofJson? := by
  apply ReadsBack.of_all
  intro info
  rw [ofJson?, record?_toJson]
  dsimp only
  simp only [Option.getD_some, Json.list?_strings, Option.bind_eq_bind, Option.bind_some]
  rfl

/-! Reports. -/

namespace Report

structure Version.Fits (v : Version) : Prop where
  major : v.major < UInt32.size
  minor : v.minor < UInt32.size

theorem Version.record?_toJson (v : Version)
    : v.toJson.record? ["major", "minor"] = some [some (.nat v.major), some (.nat v.minor)] := by
  simp [toJson, Json.record?_obj]

theorem Version.readsBack : ReadsBack Version.Fits Version.toJson Version.ofJson? := by
  apply ReadsBack.of_valid
  · intro v hv
    rw [ofJson?, record?_toJson]
    dsimp only
    rw [(ReadsBack.nat _).bind_write hv.major, (ReadsBack.nat _).bind_write hv.minor]
    rfl
  · intro json v h
    unfold ofJson? at h
    split at h
    · simp only [Option.bind_eq_bind, Option.bind_eq_some_iff] at h
      obtain ⟨major, ⟨_, -, hmajor⟩, minor, ⟨_, -, hminor⟩, heq⟩ := h
      obtain rfl := Option.some.inj heq
      exact ⟨Json.lt_of_nat? hmajor, Json.lt_of_nat? hminor⟩
    · cases h

structure Summary.Fits (s : Summary) : Prop where
  total : s.total < UInt64.size
  errors : s.errors < UInt64.size
  warnings : s.warnings < UInt64.size
  information : s.information < UInt64.size
  hints : s.hints < UInt64.size
  unitsAnalyzed : s.unitsAnalyzed < UInt64.size
  unitsFailed : s.unitsFailed < UInt64.size

theorem Summary.record?_toJson (s : Summary)
    : s.toJson.record? ["total", "errors", "warnings", "information", "hints", "units_analyzed",
          "units_failed"]
        = some [some (.nat s.total), some (.nat s.errors), some (.nat s.warnings),
            some (.nat s.information), some (.nat s.hints), some (.nat s.unitsAnalyzed),
            some (.nat s.unitsFailed)] := by
  simp [toJson, Json.record?_obj]

theorem Summary.readsBack : ReadsBack Summary.Fits Summary.toJson Summary.ofJson? := by
  apply ReadsBack.of_valid
  · intro s hs
    rw [ofJson?, record?_toJson]
    dsimp only
    have hcount := ReadsBack.nat UInt64.size
    rw [hcount.bind_write hs.total, hcount.bind_write hs.errors, hcount.bind_write hs.warnings,
      hcount.bind_write hs.information, hcount.bind_write hs.hints,
      hcount.bind_write hs.unitsAnalyzed, hcount.bind_write hs.unitsFailed]
    rfl
  · intro json s h
    unfold ofJson? at h
    dsimp only at h
    split at h
    · simp only [Option.bind_eq_bind, Option.bind_eq_some_iff] at h
      obtain ⟨total, ⟨_, -, htotal⟩, errors, ⟨_, -, herrors⟩, warnings, ⟨_, -, hwarnings⟩,
        information, ⟨_, -, hinformation⟩, hints, ⟨_, -, hhints⟩, analyzed, ⟨_, -, hanalyzed⟩,
        failed, ⟨_, -, hfailed⟩, heq⟩ := h
      obtain rfl := Option.some.inj heq
      exact ⟨Json.lt_of_nat? htotal, Json.lt_of_nat? herrors, Json.lt_of_nat? hwarnings,
        Json.lt_of_nat? hinformation, Json.lt_of_nat? hhints, Json.lt_of_nat? hanalyzed,
        Json.lt_of_nat? hfailed⟩
    · cases h

theorem Section.record?_toJson (u : Section)
    : u.toJson.record? ["unit", "fingerprint", "diagnostics"]
        = some [some (.str u.unit), some (.str u.fingerprint),
            some (.arr (u.diagnostics.map Diagnostic.toJson))] := by
  simp [toJson, Json.record?_obj]

theorem Section.readsBack
    : ReadsBack (fun u : Section => ∀ d, d ∈ u.diagnostics → d.span.Fits) Section.toJson
        Section.ofJson? := by
  have hlist := Diagnostic.readsBack.list
  apply ReadsBack.of_valid
  · intro u hu
    rw [ofJson?, record?_toJson]
    dsimp only
    rw [ReadsBack.str.bind_write trivial, ReadsBack.str.bind_write trivial, hlist.bind_write hu]
    rfl
  · intro json u h
    unfold ofJson? at h
    split at h
    · simp only [Option.bind_eq_bind, Option.bind_eq_some_iff] at h
      obtain ⟨unit, -, fingerprint, -, diagnostics, ⟨_, -, hdiagnostics⟩, heq⟩ := h
      obtain rfl := Option.some.inj heq
      exact hlist.valid_of_read hdiagnostics
    · cases h

theorem Failure.readsBack : ReadsBack (fun _ => True) Failure.toJson Failure.ofJson? := by
  apply ReadsBack.of_all
  intro f
  simp [toJson, ofJson?, Json.record?_obj, Json.str?]

/--
The numbers of the report fit, and metadata that was set is not null.
-/
structure Fits (r : Report) : Prop where
  version : r.version.Fits
  summary : r.summary.Fits
  diagnostics : ∀ u, u ∈ r.units → ∀ d, d ∈ u.diagnostics → d.span.Fits
  metadata : r.metadata ≠ some .null

theorem lookup?_failures (failures : List Failure) (name : String)
    : Json.lookup? (if failures = [] then []
          else [("failures", .arr (failures.map Failure.toJson))]) name
        = if "failures" = name ∧ failures ≠ [] then some (.arr (failures.map Failure.toJson))
          else none := by
  cases failures with
  | nil => simp
  | cons f rest => simp

theorem record?_toJson (r : Report)
    : r.toJson.record? ["version", "timestamp", "summary", "units", "failures", "metadata"]
        = some [some r.version.toJson, some (.str r.timestamp), some r.summary.toJson,
            some (.arr (r.units.map Section.toJson)),
            if r.failures = [] then none else some (.arr (r.failures.map Failure.toJson)),
            r.metadata] := by
  simp [toJson, Json.record?_obj, Json.lookup?_append, lookup?_failures]

theorem list?_failures (failures : List Failure)
    : Json.list? Failure.ofJson? ((if failures = [] then none
          else some (.arr (failures.map Failure.toJson))).getD (.arr []))
        = some failures := by
  split
  · next h =>
    subst h
    rfl
  · exact Json.list?_map fun f _ => Failure.readsBack.read_write trivial

theorem option?_metadata {metadata : Option Json} (h : metadata ≠ some .null)
    : Json.option? some (metadata.getD .null) = some metadata := by
  have hset : Json.option? some (Json.ofOption id metadata) = some metadata :=
    Json.option?_ofOption fun json hjson => ⟨rfl, fun hnull => h (hnull ▸ hjson)⟩
  rwa [Json.ofOption_eq, Option.map_id] at hset

theorem readsBack : ReadsBack Report.Fits Report.toJson Report.ofJson? := by
  have hunits := Section.readsBack.list
  apply ReadsBack.of_valid
  · intro r hr
    rw [ofJson?, record?_toJson]
    dsimp only
    rw [if_neg (by simp [toJson, Json.list?]), Version.readsBack.bind_write hr.version,
      ReadsBack.str.bind_write trivial, Summary.readsBack.bind_write hr.summary,
      hunits.bind_write hr.diagnostics, list?_failures, option?_metadata hr.metadata]
    rfl
  · intro json r h
    unfold ofJson? at h
    split at h
    · split at h
      · cases h
      · simp only [Option.bind_eq_bind, Option.bind_eq_some_iff] at h
        obtain ⟨version, ⟨_, -, hversion⟩, timestamp, -, summary, ⟨_, -, hsummary⟩, units,
          ⟨_, -, hunit⟩, failures, -, metadata, hmetadata, heq⟩ := h
        obtain rfl := Option.some.inj heq
        exact ⟨Version.readsBack.valid_of_read hversion, Summary.readsBack.valid_of_read hsummary,
          hunits.valid_of_read hunit, Json.ne_some_null_of_option? hmetadata⟩
    · cases h

end Report

/--
All values whose numbers have the bits that they may have are read from their JSON forms, a report
unless its metadata is set to null. Whatever is read of any JSON value, with fields that are unknown
or missing, is read again from the form that it is then written in.
-/
theorem jsonForms_readBack
    : ReadsBack (fun d : Diagnostic => d.span.Fits) Diagnostic.toJson Diagnostic.ofJson?
        ∧ ReadsBack (fun b : Batch => ∀ d, d ∈ b.diagnostics → d.span.Fits) Batch.toJson
          Batch.ofJson?
        ∧ ReadsBack (fun _ => True) TypeRef.toJson TypeRef.ofJson?
        ∧ ReadsBack (fun _ => True) Symbol.toJson Symbol.ofJson?
        ∧ ReadsBack (fun _ => True) CheckSettings.toJson CheckSettings.ofJson?
        ∧ ReadsBack (fun _ => True) SourceSettings.toJson SourceSettings.ofJson?
        ∧ ReadsBack (fun _ => True) BuildInfo.toJson BuildInfo.ofJson?
        ∧ ReadsBack Report.Fits Report.toJson Report.ofJson? :=
  ⟨Diagnostic.readsBack, Batch.readsBack, TypeRef.readsBack, Symbol.readsBack,
    CheckSettings.readsBack, SourceSettings.readsBack, BuildInfo.readsBack, Report.readsBack⟩

theorem jsonForms_readBack_unknown_and_missing
    : ∃ json r, Json.field? "unknown" json = some .null ∧ Json.field? "metadata" json = some .null
        ∧ Json.field? "failures" json = none
        ∧ Report.ofJson? json = some r ∧ r.units.length = 1
        ∧ Report.ofJson? r.toJson = some r := by
  let diagnostic := Json.obj [("code", .str "PARSE_ERROR"), ("severity", .str "error"),
    ("message", .str "bad"), ("source", .str "deprecheck"),
    ("span", .arr [.arr [.int 0, .int 4294967295], .arr [.int 1, .int 0]])]
  let json := Json.obj [("unknown", .null), ("metadata", .null),
    ("units", .arr [.obj [("unit", .str "A.java"), ("fingerprint", .str ""),
      ("diagnostics", .arr [diagnostic])]]),
    ("summary", .arr [.int 1, .int 1, .int 0, .int 0, .int 0, .int 1, .int 0]),
    ("timestamp", .str "T"), ("version", .arr [.int 1, .int 0])]
  obtain ⟨r, hr, hunits⟩ : ∃ r, Report.ofJson? json = some r ∧ r.units.length = 1 := ⟨_, rfl, rfl⟩
  obtain ⟨-, -, -, -, -, -, -, hreport⟩ := jsonForms_readBack
  exact ⟨json, r, rfl, rfl, rfl, hr, hunits, hreport.read_again json r hr⟩

end DeprecatedUse
