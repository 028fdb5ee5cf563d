import DeprecatedUse.Proofs.Text.Splitting
import DeprecatedUse.Report.Markdown

/-!
This module contains what a report says of the units and the failures that were added to it. The
totals count what is listed, and the markdown form lists it again, line by line: a heading for each
unit that has diagnostics, its diagnostics below, and the failures behind all units.
-/

namespace DeprecatedUse.Report

/-! Additions. -/

inductive Addition where
  | unit (unit : UnitId) (fingerprint : String) (batch : Batch)
  | failure (unit : UnitId) (error : String)

def Addition.section? : Addition → Option Section
  | unit id fingerprint batch => some ⟨id, fingerprint, batch.diagnostics⟩
  | failure _ _ => none

def Addition.failure? : Addition → Option Failure
  | unit _ _ _ => none
  | failure id error => some ⟨id, error⟩

def add (r : Report) : Addition → Report
  | .unit unit fingerprint batch => r.addUnit unit fingerprint batch
  | .failure unit error => r.addFailure unit error

def ofAdditions (timestamp : String) (additions : List Addition) : Report :=
  additions.foldl add { timestamp := timestamp }

/-! Totals. -/

def Summary.count (s : Summary) : Severity → Nat
  | .error => s.errors
  | .warning => s.warnings
  | .information => s.information
  | .hint => s.hints

def number (r : Report) (severity : Severity) : Nat :=
  r.diagnostics.countP (·.2.severity == severity)

structure Counts (r : Report) : Prop where
  total : r.summary.total = r.diagnostics.length
  count : ∀ severity, r.summary.count severity = r.number severity
  analyzed : r.summary.unitsAnalyzed = r.units.length
  failed : r.summary.unitsFailed = r.failures.length

section

variable {r : Report}

theorem diagnostics_addUnit (r : Report) (unit : UnitId) (fingerprint : String) (batch : Batch)
    : (r.addUnit unit fingerprint batch).diagnostics
        =
      r.diagnostics ++ batch.diagnostics.map fun d => (unit, d) := by
  simp [diagnostics, addUnit]

theorem Counts.addUnit (h : Counts r) (unit : UnitId) (fingerprint : String) (batch : Batch)
    : Counts (r.addUnit unit fingerprint batch) where
  total := by
    rw [diagnostics_addUnit, List.length_append, List.length_map, ← h.total]
    rfl
  count severity := by
    have hbatch : (batch.diagnostics.map fun d => (unit, d)).countP (·.2.severity == severity)
        = batch.count severity := by
      rw [List.countP_map, Batch.count, ← List.countP_eq_length_filter]
      rfl
    rw [number, diagnostics_addUnit, List.countP_append, hbatch, ← number, ← h.count]
    cases severity <;> rfl
  analyzed := by
    simp [Report.addUnit, h.analyzed]
  failed := h.failed

theorem Counts.addFailure (h : Counts r) (unit : UnitId) (error : String)
    : Counts (r.addFailure unit error) where
  total := h.total
  count severity := by
    have hcount := h.count severity
    cases severity <;> exact hcount
  analyzed := h.analyzed
  failed := by
    simp [Report.addFailure, h.failed]

theorem Counts.add (h : Counts r) (a : Addition) : Counts (r.add a) := by
  cases a with
  | unit unit fingerprint batch => apply h.addUnit
  | failure unit error => apply h.addFailure

theorem counts_ofAdditions (timestamp : String) (additions : List Addition)
    : Counts (ofAdditions timestamp additions) := by
  apply List.foldlRecOn
  · exact ⟨rfl, fun severity => by cases severity <;> rfl, rfl, rfl⟩
  · intro r h a _
    exact h.add a

theorem number_add (r : Report)
    : r.number .error + r.number .warning + r.number .information + r.number .hint
        =
      r.diagnostics.length := by
  unfold number
  induction r.diagnostics with
  | nil => rfl
  | cons d rest ih =>
    simp only [List.countP_cons, List.length_cons]
    cases d.2.severity <;> simp <;> omega

theorem Counts.severities (h : Counts r)
    : r.summary.errors = r.number .error ∧ r.summary.warnings = r.number .warning
        ∧ r.summary.information = r.number .information ∧ r.summary.hints = r.number .hint :=
  ⟨h.count .error, h.count .warning, h.count .information, h.count .hint⟩

theorem Counts.hasErrors_iff (h : Counts r)
    : r.hasErrors = true ↔ ∃ d ∈ r.diagnostics, d.2.severity = .error := by
  rw [hasErrors, decide_eq_true_iff, h.severities.1, number, List.countP_pos_iff]
  simp

theorem Counts.hasFailures_iff (h : Counts r) : r.hasFailures = true ↔ r.failures ≠ [] := by
  rw [hasFailures, decide_eq_true_iff, h.failed, List.length_pos_iff]

theorem lists_ofAdditions (timestamp : String) (additions : List Addition)
    : (ofAdditions timestamp additions).units = additions.filterMap Addition.section?
        ∧ (ofAdditions timestamp additions).failures
          = additions.filterMap Addition.failure? := by
  induction additions using List.reverseRecOn with
  | nil => exact ⟨rfl, rfl⟩
  | append_singleton additions a ih =>
    obtain ⟨hunits, hfailures⟩ := ih
    rw [ofAdditions, List.foldl_append, ← ofAdditions]
    cases a with
    | unit unit fingerprint batch =>
      simp [add, addUnit, Addition.section?, Addition.failure?, hunits, hfailures]
    | failure unit error =>
      simp [add, addFailure, Addition.section?, Addition.failure?, hunits, hfailures]

end

/-! Lines of markdown. -/

namespace Markdown

/--
The text with these lines, each ended by a line feed.
-/
def written (lines : List String) : String :=
  String.join (lines.map (· ++ "\n"))

def isItem (line : String) : Bool :=
  ['#', '#', '#', ' '].isPrefixOf line.toList || ['-', ' '].isPrefixOf line.toList

def headingLine (root : Path) (u : Section) : String :=
  "### " ++ unitName root u.unit

def diagnosticLine (d : Diagnostic) : String :=
  "- " ++ sign d.severity ++ " **" ++ d.code.word ++ "** line "
    ++ toString (Position.ordinal d.span.start.line) ++ ": " ++ d.message

def failureLine (f : Failure) : String :=
  "- `" ++ f.unit ++ "`: " ++ f.error

def totalLines (r : Report) : List String :=
  ["- Files analyzed: " ++ toString r.units.length,
    "- Files failed: " ++ toString r.failures.length,
    "- Total diagnostics: " ++ toString r.diagnostics.length,
    "- Warnings: " ++ toString (r.number .warning),
    "- Info: " ++ toString (r.number .information),
    "- Hints: " ++ toString (r.number .hint)]

def listed (r : Report) : List Section :=
  r.units.filter fun u => !u.diagnostics.isEmpty

def itemLines (root : Path) (r : Report) : List String :=
  (listed r).flatMap (fun u => headingLine root u :: u.diagnostics.map diagnosticLine)
    ++ r.failures.map failureLine

def frontLines (r : Report) : List String :=
  ["# Deprecated API Usage Report", "", "**Version:** " ++ r.version.render, "",
    "**Timestamp:** " ++ r.timestamp, "", "## Summary", ""]

def sectionLines (root : Path) (u : Section) : List String :=
  headingLine root u :: "" :: (u.diagnostics.map diagnosticLine ++ [""])

def findingLines (root : Path) (r : Report) : List String :=
  if r.diagnostics.isEmpty then
    ["✅ **No deprecated usages found!**"]
  else
    "## Diagnostics" :: "" :: (listed r).flatMap (sectionLines root)

def failureLines (fs : List Failure) : List String :=
  if fs.isEmpty then [] else "## Failures" :: "" :: (fs.map failureLine ++ [""])

def lines (root : Path) (r : Report) : List String :=
  frontLines r ++ (totalLines r ++ "" :: (findingLines root r ++ failureLines r.failures))

theorem written_append (xs ys : List String) : written (xs ++ ys) = written xs ++ written ys := by
  simp [written]

theorem written_cons (line : String) (rest : List String)
    : written (line :: rest) = line ++ "\n" ++ written rest := by
  simp [written]

@[simp]
theorem written_nil : written [] = "" := by
  simp [written]

theorem written_map {α : Type} (f : α → String) (xs : List α)
    : written (xs.map f) = String.join (xs.map fun x => f x ++ "\n") := by
  simp [written, Function.comp_def]

theorem written_flatMap {α : Type} (f : α → List String) (xs : List α)
    : written (xs.flatMap f) = String.join (xs.map fun x => written (f x)) := by
  induction xs with
  | nil => simp
  | cons x xs ih => simp [written_append, ih]

theorem blank_eq : "\n\n" = "\n" ++ "\n" :=
  rfl

section

variable {r : Report}

theorem summary_eq_written (h : Counts r)
    : Markdown.summary r.summary = written ("## Summary" :: "" :: (totalLines r ++ [""])) := by
  obtain ⟨-, hwarnings, hinformation, hhints⟩ := h.severities
  unfold Markdown.summary
  rw [h.analyzed, h.failed, h.total, hwarnings, hinformation, hhints]
  have htitle : "## Summary\n\n" = "## Summary" ++ ("\n" ++ "\n") := rfl
  simp only [totalLines, List.cons_append, List.nil_append, written_cons, written_nil, htitle,
    blank_eq, String.append_assoc, String.empty_append, String.append_empty]

theorem unitSection_eq_written (root : Path) (u : Section)
    : unitSection root u = written (sectionLines root u) := by
  rw [unitSection, sectionLines, written_cons, written_cons, written_append, written_map,
    ← String.toList_inj]
  simp only [headingLine, String.toList_append, List.append_assoc]
  rfl

theorem findings_eq_written (h : Counts r) (root : Path)
    : findings root r = written (findingLines root r) := by
  rw [findings, findingLines, h.total]
  simp only [List.length_eq_zero_iff, List.isEmpty_iff]
  split
  · rfl
  · have hsections : (listed r).map (unitSection root)
        = (listed r).map fun u => written (sectionLines root u) :=
      List.map_congr_left fun u _ => unitSection_eq_written root u
    rw [written_cons, written_cons, written_flatMap, ← hsections]
    rfl

theorem failures_eq_written (fs : List Failure)
    : failures fs = written (failureLines fs) := by
  rw [failures, failureLines]
  split
  · exact written_nil.symm
  · rw [written_cons, written_cons, written_append, written_map]
    rfl

theorem markdown_eq_written (h : Counts r) (root : Path)
    : r.markdown root = written (lines root r) := by
  unfold markdown
  rw [summary_eq_written h, findings_eq_written h, failures_eq_written, lines]
  have htitle : "# Deprecated API Usage Report\n\n"
      = "# Deprecated API Usage Report" ++ ("\n" ++ "\n") := rfl
  simp only [frontLines, List.cons_append, List.nil_append, written_cons, written_append,
    written_nil, htitle, blank_eq, String.append_assoc, String.empty_append]

end

/-! Items. -/

theorem isItem_append {mark : String} (h : isItem mark = true) (text : String)
    : isItem (mark ++ text) = true := by
  rw [isItem, Bool.or_eq_true, List.isPrefixOf_iff_prefix, List.isPrefixOf_iff_prefix] at h ⊢
  rw [String.toList_append]
  exact h.imp (·.trans (List.prefix_append _ _)) (·.trans (List.prefix_append _ _))

theorem isItem_headingLine (root : Path) (u : Section) : isItem (headingLine root u) = true :=
  isItem_append (by decide) _

theorem isItem_diagnosticLine (d : Diagnostic) : isItem (diagnosticLine d) = true := by
  simp only [diagnosticLine, String.append_assoc]
  exact isItem_append (by decide) _

theorem isItem_failureLine (f : Failure) : isItem (failureLine f) = true := by
  simp only [failureLine, String.append_assoc]
  exact isItem_append (by decide) _

theorem isItem_of_mem_totalLines {r : Report} {line : String} (h : line ∈ totalLines r)
    : isItem line = true := by
  simp only [totalLines, List.mem_cons, List.not_mem_nil, or_false] at h
  obtain rfl | rfl | rfl | rfl | rfl | rfl := h <;> exact isItem_append (by decide) _

theorem filter_frontLines (r : Report) : (frontLines r).filter isItem = [] := by
  simp only [frontLines, List.filter, isItem, String.toList_append]
  rfl

theorem filter_sectionLines (root : Path) (u : Section)
    : (sectionLines root u).filter isItem
        =
      headingLine root u :: u.diagnostics.map diagnosticLine := by
  have hdiagnostics : (u.diagnostics.map diagnosticLine).filter isItem
      = u.diagnostics.map diagnosticLine := by
    rw [List.filter_eq_self]
    simp [isItem_diagnosticLine]
  rw [sectionLines, List.filter_cons_of_pos (isItem_headingLine root u),
    List.filter_cons_of_neg (by decide), List.filter_append, hdiagnostics,
    List.filter_cons_of_neg (by decide), List.filter_nil, List.append_nil]

theorem listed_eq_nil {r : Report} (h : r.diagnostics = []) : listed r = [] := by
  simp only [diagnostics, List.flatMap_eq_nil_iff, List.map_eq_nil_iff] at h
  simpa [listed] using h

theorem filter_findingLines (root : Path) (r : Report)
    : (findingLines root r).filter isItem
        =
      (listed r).flatMap fun u => headingLine root u :: u.diagnostics.map diagnosticLine := by
  rw [findingLines]
  split
  · next h =>
    rw [listed_eq_nil (List.isEmpty_iff.1 h), List.flatMap_nil]
    decide
  · rw [List.filter_cons_of_neg (by decide), List.filter_cons_of_neg (by decide),
      List.filter_flatMap]
    simp only [filter_sectionLines]

theorem filter_failureLines (fs : List Failure)
    : (failureLines fs).filter isItem = fs.map failureLine := by
  have hfailures : (fs.map failureLine).filter isItem = fs.map failureLine := by
    rw [List.filter_eq_self]
    simp [isItem_failureLine]
  rw [failureLines]
  split
  · next h => rw [List.isEmpty_iff.1 h, List.map_nil, List.filter_nil]
  · rw [List.filter_cons_of_neg (by decide), List.filter_cons_of_neg (by decide),
      List.filter_append, hfailures, List.filter_cons_of_neg (by decide), List.filter_nil,
      List.append_nil]

theorem filter_lines (root : Path) (r : Report)
    : (lines root r).filter isItem = totalLines r ++ itemLines root r := by
  have htotals : (totalLines r).filter isItem = totalLines r :=
    List.filter_eq_self.2 fun _ => isItem_of_mem_totalLines
  rw [lines, List.filter_append, filter_frontLines, List.nil_append, List.filter_append, htotals,
    List.filter_cons_of_neg (by decide), List.filter_append, filter_findingLines,
    filter_failureLines, itemLines]

/-! Line feeds. -/

/--
No text that the report shows has a line feed.
-/
structure IsPlain (root : Path) (r : Report) : Prop where
  timestamp : '\n' ∉ r.timestamp.toList
  names : ∀ u ∈ r.units, '\n' ∉ (unitName root u.unit).toList
  messages : ∀ d ∈ r.diagnostics, '\n' ∉ d.2.message.toList
  failures : ∀ f ∈ r.failures, '\n' ∉ f.unit.toList ∧ '\n' ∉ f.error.toList

theorem not_mem_toDigits (n : Nat) : '\n' ∉ Nat.toDigits 10 n := fun h =>
  absurd (Nat.isDigit_of_mem_toDigits (by decide) (by decide) h) (by decide)

theorem not_mem_diagnosticLine {d : Diagnostic} (h : '\n' ∉ d.message.toList)
    : '\n' ∉ (diagnosticLine d).toList := by
  have hsign : '\n' ∉ (sign d.severity).toList := by
    cases d.severity <;> decide
  have hword : '\n' ∉ d.code.word.toList := by
    cases d.code <;> decide
  simp [diagnosticLine, hsign, hword, not_mem_toDigits, h]

theorem not_mem_failureLine {f : Failure} (hunit : '\n' ∉ f.unit.toList)
    (herror : '\n' ∉ f.error.toList) : '\n' ∉ (failureLine f).toList := by
  simp [failureLine, hunit, herror]

theorem not_mem_totalLines {r : Report} {line : String} (h : line ∈ totalLines r)
    : '\n' ∉ line.toList := by
  simp only [totalLines, List.mem_cons, List.not_mem_nil, or_false] at h
  obtain rfl | rfl | rfl | rfl | rfl | rfl := h <;> simp [not_mem_toDigits]

namespace IsPlain

variable {root : Path} {r : Report} {line : String}

theorem frontLines (h : IsPlain root r) (hline : line ∈ frontLines r) : '\n' ∉ line.toList := by
  have hversion : '\n' ∉ ("**Version:** " ++ r.version.render).toList := by
    simp [Version.render, not_mem_toDigits]
  have htimestamp : '\n' ∉ ("**Timestamp:** " ++ r.timestamp).toList := by
    simp [h.timestamp]
  have hall : ∀ line ∈ Markdown.frontLines r, '\n' ∉ line.toList := by
    simp only [Markdown.frontLines, List.forall_mem_cons]
    exact ⟨by decide, by decide, hversion, by decide, htimestamp, by decide, by decide, by decide,
      fun _ hnil => absurd hnil List.not_mem_nil⟩
  exact hall line hline

theorem sectionLines (h : IsPlain root r) {u : Section} (hu : u ∈ r.units)
    (hline : line ∈ sectionLines root u) : '\n' ∉ line.toList := by
  simp only [Markdown.sectionLines, List.mem_cons, List.mem_append, List.mem_map,
    List.not_mem_nil, or_false] at hline
  obtain rfl | rfl | ⟨d, hd, rfl⟩ | rfl := hline
  · simp [headingLine, h.names u hu]
  · decide
  · have hmem : (u.unit, d) ∈ r.diagnostics :=
      List.mem_flatMap_of_mem hu (List.mem_map_of_mem hd)
    exact not_mem_diagnosticLine (h.messages (u.unit, d) hmem)
  · decide

theorem findingLines (h : IsPlain root r) (hline : line ∈ findingLines root r)
    : '\n' ∉ line.toList := by
  rw [Markdown.findingLines] at hline
  split at hline
  · rw [List.mem_singleton] at hline
    subst hline
    decide
  · simp only [List.mem_cons, List.mem_flatMap] at hline
    obtain rfl | rfl | ⟨u, hu, hline⟩ := hline
    · decide
    · decide
    · exact h.sectionLines (List.mem_of_mem_filter hu) hline

theorem failureLines (h : IsPlain root r) (hline : line ∈ failureLines r.failures)
    : '\n' ∉ line.toList := by
  rw [Markdown.failureLines] at hline
  split at hline
  · exact absurd hline List.not_mem_nil
  · simp only [List.mem_cons, List.mem_append, List.mem_map, List.not_mem_nil, or_false] at hline
    obtain rfl | rfl | ⟨f, hf, rfl⟩ | rfl := hline
    · decide
    · decide
    · exact not_mem_failureLine (h.failures f hf).1 (h.failures f hf).2
    · decide

theorem lines (h : IsPlain root r) (hline : line ∈ lines root r) : '\n' ∉ line.toList := by
  simp only [Markdown.lines, List.mem_append, List.mem_cons] at hline
  obtain hfront | htotals | rfl | hfindings | hfailures := hline
  · exact h.frontLines hfront
  · exact not_mem_totalLines htotals
  · decide
  · exact h.findingLines hfindings
  · exact h.failureLines hfailures

end IsPlain

theorem splitOn_written {texts : List String} (h : ∀ line ∈ texts, '\n' ∉ line.toList)
    : Text.splitOn '\n' (written texts).toList = texts.map String.toList ++ [[]] := by
  induction texts with
  | nil => simp [Text.splitOn]
  | cons line texts ih =>
    rw [List.forall_mem_cons] at h
    have htext : (written (line :: texts)).toList
        = line.toList ++ '\n' :: (written texts).toList := by
      simp [written_cons]
    rw [htext, Text.splitOn_append_cons h.1, ih h.2, List.map_cons, List.cons_append]

end Markdown

/-! Reports. -/

/--
The totals of a report count what was added to it, and its markdown form lists just that: behind the
totals one heading for each unit with diagnostics, one bullet for each of them, and one bullet for
each failure. Where no text has a line feed, those are the lines of the text.
-/
theorem totals_eq_listed {timestamp : String} {additions : List Addition} {r : Report}
    (h : ofAdditions timestamp additions = r) (root : Path)
    : (r.units = additions.filterMap Addition.section?
        ∧ r.failures = additions.filterMap Addition.failure?)
      ∧ (r.summary.total
          = r.summary.errors + r.summary.warnings + r.summary.information + r.summary.hints
        ∧ r.summary.total = r.diagnostics.length
        ∧ (∀ severity, r.summary.count severity = r.number severity)
        ∧ r.summary.unitsAnalyzed = r.units.length
        ∧ r.summary.unitsFailed = r.failures.length)
      ∧ (r.hasErrors = true ↔ ∃ d ∈ r.diagnostics, d.2.severity = .error)
      ∧ (r.hasFailures = true ↔ r.failures ≠ [])
      ∧ (r.markdown root = Markdown.written (Markdown.lines root r)
        ∧ (Markdown.lines root r).filter Markdown.isItem
          = Markdown.totalLines r ++ Markdown.itemLines root r
        ∧ (Markdown.IsPlain root r
          → Text.splitOn '\n' (r.markdown root).toList
            = (Markdown.lines root r).map String.toList ++ [[]])) := by
  have hcounts : Counts r := h ▸ counts_ofAdditions timestamp additions
  have hsum : r.summary.total
      = r.summary.errors + r.summary.warnings + r.summary.information + r.summary.hints := by
    obtain ⟨herrors, hwarnings, hinformation, hhints⟩ := hcounts.severities
    rw [herrors, hwarnings, hinformation, hhints, number_add, hcounts.total]
  have hwritten := Markdown.markdown_eq_written hcounts root
  refine ⟨h ▸ lists_ofAdditions timestamp additions,
    ⟨hsum, hcounts.total, hcounts.count, hcounts.analyzed, hcounts.failed⟩, hcounts.hasErrors_iff,
    hcounts.hasFailures_iff, hwritten, Markdown.filter_lines root r, fun hplain => ?_⟩
  rw [hwritten]
  exact Markdown.splitOn_written fun _ hline => hplain.lines hline

def mixedAdditions : List Addition :=
  [.unit "/w/src/A.java" "a"
      ⟨[⟨.parseError, .error, "no end", ⟨⟨0, 2⟩, ⟨0, 4⟩⟩, sourceTag, none⟩,
        ⟨.deprecatedMemberUsage, .warning, "'p.A.old' is deprecated", ⟨⟨3, 0⟩, ⟨3, 5⟩⟩, sourceTag,
          none⟩]⟩,
    .failure "Broken.java" "unterminated block comment",
    .unit "/w/B.java" "b" ⟨[]⟩]

theorem mixedAdditions_totals
    : Markdown.IsPlain ⟨"/w"⟩ (ofAdditions "T" mixedAdditions)
      ∧ (ofAdditions "T" mixedAdditions).summary = ⟨2, 1, 1, 0, 0, 2, 1⟩
      ∧ Text.splitOn '\n' ((ofAdditions "T" mixedAdditions).markdown ⟨"/w"⟩).toList
        = (Markdown.lines ⟨"/w"⟩ (ofAdditions "T" mixedAdditions)).map String.toList ++ [[]]
      ∧ (Markdown.lines ⟨"/w"⟩ (ofAdditions "T" mixedAdditions)).drop 15
        = ["## Diagnostics", "", "### src/A.java", "",
          "- ❌ **PARSE_ERROR** line 1: no end",
          "- ⚠️ **DEPRECATED_MEMBER_USAGE** line 4: 'p.A.old' is deprecated", "",
          "## Failures", "", "- `Broken.java`: unterminated block comment", ""] := by
  have hplain : Markdown.IsPlain ⟨"/w"⟩ (ofAdditions "T" mixedAdditions) :=
    { timestamp := by decide +kernel
      names := by decide +kernel
      messages := by decide +kernel
      failures := by decide +kernel }
  obtain ⟨_, _, _, _, _, _, hsplit⟩ :=
    totals_eq_listed (rfl : ofAdditions "T" mixedAdditions = _) ⟨"/w"⟩
  exact ⟨hplain, rfl, hsplit hplain, by decide +kernel⟩

end DeprecatedUse.Report
