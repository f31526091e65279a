import PseudoLint.Proofs.Check.Provenance
import PseudoLint.Proofs.Diagnostic

/-! # Deduplication and the verdict

Two emitted diagnostics with the same line and message are equal, because the message of a finding
tells its severity and its code. So removing duplicates removes no finding: a warning never stands
in the place of an error, and the verdict is that of everything that was emitted.
-/

namespace PseudoLint.Check

theorem eq_of_key_eq {config : Config} {source : Text} {first second : Diagnostic}
    (firstIn : first ∈ (outcome config source).emitted)
    (secondIn : second ∈ (outcome config source).emitted) (keys : first.key = second.key) :
    first = second := by
  obtain ⟨⟨line, finding⟩, rfl, quoted⟩ := worded_of_mem_emitted firstIn
  obtain ⟨⟨otherLine, other⟩, rfl, otherQuoted⟩ := worded_of_mem_emitted secondIn
  obtain ⟨lines, messages⟩ := Prod.ext_iff.mp keys
  obtain ⟨severities, codes⟩ := Finding.kind_eq_of_message_eq quoted otherQuoted messages
  simp only [worded, Finding.on, Diagnostic.mk.injEq]
  exact ⟨lines, messages, severities, codes⟩

theorem mem_diagnostics_of_mem_emitted {config : Config} {source : Text} {diagnostic : Diagnostic}
    (member : diagnostic ∈ (outcome config source).emitted) :
    diagnostic ∈ (outcome config source).diagnostics := by
  obtain ⟨kept, present, keys⟩ := Diagnostic.exists_mem_dedup member
  rw [← eq_of_key_eq (Diagnostic.mem_of_mem_dedup present) member keys]
  exact present

/-- As a set, the diagnostics of an outcome are all that was emitted. -/
theorem mem_diagnostics_iff {config : Config} {source : Text} {diagnostic : Diagnostic} :
    diagnostic ∈ (outcome config source).diagnostics ↔
      diagnostic ∈ (outcome config source).emitted :=
  ⟨Diagnostic.mem_of_mem_dedup, mem_diagnostics_of_mem_emitted⟩

/-- What a line of a source reports stays among the diagnostics. -/
theorem mem_diagnostics_of_mem_findings {config : Config} {source : Text}
    {before later : List Line} {line : Line} {finding : Finding}
    (cut : Line.contentOf source = before ++ line :: later)
    (found : finding ∈ findings config line (after before {})) :
    finding.on line.number ∈ (outcome config source).diagnostics := by
  have reported : (line.number, finding) ∈ reports config (Line.contentOf source) {} :=
    mem_reports_iff.mpr ⟨before, line, later, cut, rfl, found⟩
  have present : line ∈ Line.contentOf source := by
    rw [cut]
    exact List.mem_append_right _ List.mem_cons_self
  apply mem_diagnostics_of_mem_emitted
  rw [emitted_outcome (Line.anyContent_of_mem present)]
  exact List.mem_append_left _ (List.mem_append_left _ (List.mem_map_of_mem reported))

/-- Deduplication drops only diagnostics that equal one it keeps, and the verdict is that of all
that was emitted. -/
theorem dedup_drops_only_duplicates {config : Config} {source : Text} {check : Check}
    (ran : run config source = .ok check) :
    (∀ first ∈ check.emitted, ∀ second ∈ check.emitted, first.key = second.key →
      first.severity = second.severity ∧ first.code = second.code) ∧
    (∀ diagnostic ∈ check.emitted, diagnostic ∈ check.diagnostics) ∧
    (check.isValid = true ↔ ∀ diagnostic ∈ check.emitted, diagnostic.severity ≠ .error) := by
  obtain ⟨rfl, -⟩ := run_eq_ok ran
  refine ⟨?_, fun diagnostic member => mem_diagnostics_of_mem_emitted member, ?_⟩
  · intro first firstIn second secondIn keys
    rw [eq_of_key_eq firstIn secondIn keys]
    exact ⟨rfl, rfl⟩
  · simp only [isValid, Diagnostic.allValid_iff, mem_diagnostics_iff]

/-- A name that is read twice on a line is reported twice and listed once. -/
theorem dedup_drops_repeated_use :
    ∃ check, run {} "OUTPUT y, y" = .ok check ∧ check.diagnostics.length < check.emitted.length ∧
      ∀ diagnostic ∈ check.emitted, diagnostic ∈ check.diagnostics := by
  obtain ⟨check, ran⟩ : ∃ check, run {} "OUTPUT y, y" = .ok check := ⟨_, rfl⟩
  have fewer : (outcome {} "OUTPUT y, y").diagnostics.length <
      (outcome {} "OUTPUT y, y").emitted.length := by decide
  rw [← (run_eq_ok ran).1] at fewer
  exact ⟨check, ran, fewer, (dedup_drops_only_duplicates ran).2.1⟩

end PseudoLint.Check
