import DeprecatedUse.Proofs.Report.Totals
import DeprecatedUse.Report.Console

/-!
This module contains when a report is said to be clean. Both of its forms have a place for the
verdict, right behind the totals. On a terminal it is given exactly if there is neither a diagnostic
nor a failure, in markdown whenever there is no diagnostic. So the two forms disagree on the reports
that have failures alone.
-/

namespace DeprecatedUse.Report

open DeprecatedUse.Text (Style)

/-! Places in a text. -/

theorem exists_eq_append_iff {text front tail : String} (h : text = front ++ tail) (mark : String)
    : (∃ rest, text = front ++ (mark ++ rest)) ↔ mark.toList <+: tail.toList := by
  constructor
  · rintro ⟨rest, hrest⟩
    rw [h, String.append_right_inj] at hrest
    rw [hrest, String.toList_append]
    apply List.prefix_append
  · rintro ⟨rest, hrest⟩
    refine ⟨String.ofList rest, ?_⟩
    rw [h, String.append_right_inj, ← String.toList_inj, ← hrest, String.toList_append,
      String.toList_ofList]

theorem not_prefix_of_differ {start mark text : List Char} (hstart : start <+: text)
    (h : ¬ mark <+: start) (h' : ¬ start <+: mark) : ¬ mark <+: text := fun hmark =>
  (List.prefix_or_prefix_of_prefix hmark hstart).elim h h'

/-! Markdown. -/

namespace Markdown

def front (r : Report) : String :=
  "# Deprecated API Usage Report\n\n"
    ++ "**Version:** " ++ r.version.render ++ "\n\n"
    ++ "**Timestamp:** " ++ r.timestamp ++ "\n\n"
    ++ Markdown.summary r.summary

def verdict : String :=
  "✅ **No deprecated usages found!**\n"

def SaysClean (root : Path) (r : Report) : Prop :=
  ∃ rest, r.markdown root = front r ++ (verdict ++ rest)

theorem markdown_eq_front (root : Path) (r : Report)
    : r.markdown root = front r ++ (findings root r ++ failures r.failures) := by
  unfold markdown front
  rw [String.append_assoc]

theorem saysClean_iff {r : Report} (h : Counts r) (root : Path)
    : SaysClean root r ↔ r.diagnostics = [] := by
  rw [SaysClean, exists_eq_append_iff (markdown_eq_front root r), String.toList_append, findings]
  by_cases hclean : r.diagnostics = []
  · rw [if_pos (by rw [h.total, hclean, List.length_nil])]
    exact iff_of_true (List.prefix_append _ _) hclean
  · rw [if_neg (by rwa [h.total, List.length_eq_zero_iff]), String.toList_append, List.append_assoc]
    refine iff_of_false ?_ hclean
    exact not_prefix_of_differ (List.prefix_append _ _) (by decide) (by decide)

end Markdown

/-! Terminals. -/

namespace Console

def front (coloured : Bool) (r : Report) : String :=
  "\n" ++ rule coloured
    ++ Style.paint { bold := true, colour := some .brightBlue } coloured
      "Deprecated API Usage Report" ++ "\n"
    ++ rule coloured ++ "\n"
    ++ "Version: " ++ r.version.render ++ "\n"
    ++ "Timestamp: " ++ r.timestamp ++ "\n\n"
    ++ Console.summary coloured r.summary

def verdict (coloured : Bool) : String :=
  Style.paint { bold := true, colour := some .green } coloured "✓ No deprecated usages found!"
    ++ "\n"

def SaysClean (coloured : Bool) (root : Path) (r : Report) : Prop :=
  ∃ rest, r.console coloured root = front coloured r ++ (verdict coloured ++ rest)

theorem console_eq_front (coloured : Bool) (root : Path) (r : Report)
    : r.console coloured root
        =
      front coloured r
        ++ (findings coloured root r ++ (failures coloured r.failures ++ rule coloured)) := by
  unfold console front
  simp only [String.append_assoc]

theorem not_verdict_prefix_of_heading {coloured : Bool} {word : String}
    (hword : word = "Diagnostics:" ∨ word = "Failures:") (rest : List Char)
    : ¬ (verdict coloured).toList <+: (heading coloured word).toList ++ rest := by
  apply not_prefix_of_differ (List.prefix_append _ _)
  · obtain rfl | rfl := hword <;> cases coloured <;> decide +kernel
  · obtain rfl | rfl := hword <;> cases coloured <;> decide +kernel

theorem saysClean_iff {r : Report} (h : Counts r) (coloured : Bool) (root : Path)
    : SaysClean coloured root r ↔ r.diagnostics = [] ∧ r.failures = [] := by
  rw [SaysClean, exists_eq_append_iff (console_eq_front coloured root r), String.toList_append,
    findings]
  by_cases hdiagnostics : r.diagnostics = []
  · rw [if_pos (by rw [h.total, hdiagnostics, List.length_nil])]
    by_cases hfailures : r.failures = []
    · rw [if_pos (List.isEmpty_iff.2 hfailures)]
      exact iff_of_true (List.prefix_append _ _) ⟨hdiagnostics, hfailures⟩
    · have hempty : ¬ r.failures.isEmpty = true := by rwa [List.isEmpty_iff]
      rw [if_neg hempty, failures, if_neg hempty]
      refine iff_of_false ?_ fun hclean => hfailures hclean.2
      simp only [String.toList_append, List.append_assoc]
      exact not_verdict_prefix_of_heading (.inr rfl) _
  · rw [if_neg (by rwa [h.total, List.length_eq_zero_iff])]
    refine iff_of_false ?_ fun hclean => hdiagnostics hclean.1
    simp only [String.toList_append, List.append_assoc]
    exact not_verdict_prefix_of_heading (.inl rfl) _

end Console

/-! Agreement. -/

/--
On a terminal a report is clean if it has neither a diagnostic nor a failure; in markdown it is
clean without diagnostics. The two forms agree exactly on the reports that have a diagnostic or no
failure.
-/
theorem saysClean_agree_iff (timestamp : String) (additions : List Addition) (coloured : Bool)
    (root : Path)
    : (Console.SaysClean coloured root (ofAdditions timestamp additions)
        ↔ (ofAdditions timestamp additions).diagnostics = []
          ∧ (ofAdditions timestamp additions).failures = [])
      ∧ (Markdown.SaysClean root (ofAdditions timestamp additions)
        ↔ (ofAdditions timestamp additions).diagnostics = [])
      ∧ ((Markdown.SaysClean root (ofAdditions timestamp additions)
          ↔ Console.SaysClean coloured root (ofAdditions timestamp additions))
        ↔ (ofAdditions timestamp additions).diagnostics ≠ []
          ∨ (ofAdditions timestamp additions).failures = []) := by
  have hcounts := counts_ofAdditions timestamp additions
  rw [Console.saysClean_iff hcounts, Markdown.saysClean_iff hcounts]
  refine ⟨Iff.rfl, Iff.rfl, ?_⟩
  tauto

def brokenAdditions : List Addition :=
  [.failure "Broken.java" "unterminated block comment"]

/--
A report with nothing but a failure is clean in markdown, and not on a terminal.
-/
theorem failure_saysClean
    : Markdown.SaysClean ⟨"/w"⟩ (ofAdditions "T" brokenAdditions)
      ∧ (ofAdditions "T" brokenAdditions).failures ≠ []
      ∧ (ofAdditions "T" brokenAdditions).hasFailures = true
      ∧ ∀ coloured, ¬ Console.SaysClean coloured ⟨"/w"⟩ (ofAdditions "T" brokenAdditions) := by
  have hcounts := counts_ofAdditions "T" brokenAdditions
  have hfailures : (ofAdditions "T" brokenAdditions).failures ≠ [] := by decide
  refine ⟨(Markdown.saysClean_iff hcounts _).2 rfl, hfailures, rfl, fun coloured hclean => ?_⟩
  exact hfailures ((Console.saysClean_iff hcounts coloured _).1 hclean).2

end DeprecatedUse.Report
