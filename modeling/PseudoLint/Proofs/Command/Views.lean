import Mathlib.Tactic.TFAE
import PseudoLint.Command.Run
import PseudoLint.Proofs.Check.Verdict
import PseudoLint.Proofs.Report.Views

/-! # One verdict in every view

A check is shown as a table with a summary, as a printed report, as JSON and by the exit status of
the command. All of them show the same diagnostics with the same counts and give the same verdict.
This rests on the checker: it reports nothing but errors and warnings.
-/

namespace PseudoLint

/-- A check reports nothing but errors and warnings. -/
theorem Check.graded_diagnostics {config : Config} {source : Text} {check : Check}
    (ran : Check.run config source = .ok check) : Diagnostic.Graded check.diagnostics := by
  obtain ⟨rfl, -⟩ := run_eq_ok ran
  intro diagnostic member
  obtain ⟨⟨line, finding⟩, rfl, -⟩ := worded_of_mem_emitted (Diagnostic.mem_of_mem_dedup member)
  cases finding
  case indentation | redeclared | emptyForBody => exact .inr rfl
  all_goals exact .inl rfl

theorem Check.toJson_isValid_iff (check : Check) :
    check.toJson.get? "isValid" = some (.bool true) ↔ check.isValid = true := by
  rw [show check.toJson.get? "isValid" = some (.bool check.isValid) from rfl, Option.some.injEq,
    Json.bool.injEq]

/-- A written object begins with its first member. -/
theorem Json.exists_indented (key : Text) (value : Json) (next : Text × Json)
    (others : List (Text × Json)) :
    ∃ rest, Json.indented 0 (.obj ((key, value) :: next :: others)) =
      '{' :: lineBreak 1 ++ writeString key ++ ": ".toList ++ indented 1 value ++ ',' :: rest := by
  refine ⟨lineBreak 1 ++ indentedMembers 1 (next :: others) ++ lineBreak 0 ++ ['}'], ?_⟩
  rw [indented, indentedMembers]
  · simp only [List.append_assoc, List.cons_append, Nat.zero_add]
  · simp

/-- The verdict stands at the front of the JSON text of a check. -/
theorem Check.startsWith_indented_iff (check : Check) :
    Text.startsWith (Report.printed [check.toJson.indented 0])
        "\x7b\n  \"isValid\": true," = true ↔ check.isValid = true := by
  obtain ⟨rest, written⟩ := Json.exists_indented "isValid" (.bool check.isValid)
    ("diagnostics", .arr (check.diagnostics.map Diagnostic.toJson))
    [("symbols", Listing.allToJson check.symbols)]
  have start : '{' :: Json.lineBreak 1 ++ Json.writeString "isValid" ++ ": ".toList =
      "\x7b\n  \"isValid\": ".toList := by decide
  rw [start] at written
  rw [show check.toJson.indented 0 = _ from written, Report.printed]
  cases check.isValid <;> simp [Json.indented, Json.compact, Text.startsWith]

namespace Command

/-- The arguments ask for a check of `source` as it stands under `config`: they name a file that
reads as that source, with shortcuts left alone. -/
structure Checks (reader : FileReader) (arguments : List Text) (file : Text)
    (settings : Settings) (config : Config) (source : Text) : Prop where
  asked : parse arguments = .ok (.checkFile file settings)
  verbatim : settings.autoReplace = false
  configured : loadConfig reader settings = .ok config
  readable : ∃ bytes, reader (Path.ofText file) = .ok bytes ∧ decodeFile bytes = .ok source

theorem Checks.run_eq {reader : FileReader} {arguments : List Text} {file : Text}
    {settings : Settings} {config : Config} {source : Text} {check : Check}
    (checks : Checks reader arguments file settings config source)
    (ran : Check.run config source = .ok check) (component : Text) :
    run reader component arguments = .ok (finished component file settings check) := by
  obtain ⟨bytes, read, decoded⟩ := checks.readable
  simp only [run, checks.asked, checkFile, checks.configured, checkSource, read, decoded,
    checkText, checks.verbatim, Bool.false_eq_true, ↓reduceIte, ran]

theorem status_finished (component file : Text) (settings : Settings) (check : Check) :
    (finished component file settings check).status = 0 ∨
      (finished component file settings check).status = 2 := by
  rw [finished]
  split
  · exact .inl rfl
  · exact .inr rfl

theorem status_finished_eq_zero_iff (component file : Text) (settings : Settings)
    (check : Check) :
    (finished component file settings check).status = 0 ↔ check.isValid = true := by
  cases valid : check.isValid <;> simp [finished, valid]

/-- A check gives one verdict and one set of counts, whichever way it is shown. -/
theorem views_agree {config : Config} {source : Text} {check : Check}
    (ran : Check.run config source = .ok check) :
    let shown := check.diagnostics
    let rows := DiagnosticRow.ofDiagnostics shown
    let errorRows := DiagnosticRow.errorRows rows
    let warningRows := DiagnosticRow.warningRows rows
    let summary := Summary.ofDiagnostics shown
    (∃ ordered, StablySorted DiagnosticRow.place DiagnosticRow.Before ordered shown ∧
      rows = ordered.mapIdx fun position diagnostic =>
        ⟨position + 1, diagnostic.line, diagnostic.isError, diagnostic.code,
          diagnostic.message⟩) ∧
    (∀ symbols?, ∃ listed, StablySorted Diagnostic.line (· ≤ ·) listed shown ∧ listed.Nodup ∧
      Report.text shown symbols? =
        (symbols?.elim [] Report.symbolSection ++ "=== Diagnósticos ===".toList ::
          (listed.map fun diagnostic : Diagnostic =>
            "línea ".toList ++ Numeral.ofInt diagnostic.line ++
              (if diagnostic.isError then " [error] ".toList else " [warning] ".toList) ++
                diagnostic.code ++ ": ".toList ++ diagnostic.message) ++
          (if shown = [] then [] else [[]]) ++
          [Report.verdict rows.length errorRows.length warningRows.length]).flatMap
            (· ++ ['\n'])) ∧
    errorRows.length = summary.errors ∧ warningRows.length = summary.warnings ∧
    ∀ reader component arguments file settings,
      Checks reader arguments file settings config source →
      ∃ output, run reader component arguments = .ok output ∧
        output.stdout =
          (if settings.json then Report.printed [check.toJson.indented 0]
          else Report.printed ["Procesando archivo ".toList ++ file ++ "...", []] ++
            Report.text shown
              (if settings.symbols then some (Report.symbolLines check.symbols) else none)) ∧
        (output.status = 0 ∨ output.status = 2) ∧
        [output.status = 0,
          check.toJson.get? "isValid" = some (.bool true),
          Text.startsWith (Report.printed [check.toJson.indented 0])
            "\x7b\n  \"isValid\": true," = true,
          summary.valid = true,
          Diagnostic.errors shown = [],
          errorRows = [],
          ∀ symbols?, Report.accepts (Report.closingLine (Report.text shown symbols?)) =
            true].TFAE := by
  intro shown rows errorRows warningRows summary
  have errorCount : errorRows.length = summary.errors := DiagnosticRow.length_errorRows shown
  have warningCount : warningRows.length = summary.warnings :=
    DiagnosticRow.length_warningRows (Check.graded_diagnostics ran)
  have rowCount : rows.length = shown.length := DiagnosticRow.length_ofDiagnostics shown
  refine ⟨DiagnosticRow.exists_ofDiagnostics shown, ?_, errorCount, warningCount, ?_⟩
  · intro symbols?
    obtain ⟨listed, sorted, printout⟩ := Report.exists_text shown symbols?
    have lines : listed.map Report.diagnosticLine = listed.map _ :=
      List.map_congr_left fun diagnostic member => Report.diagnosticLine_of_graded
        (Check.graded_diagnostics ran) (sorted.perm.mem_iff.mp member)
    rw [rowCount, errorCount, warningCount]
    refine ⟨listed, sorted, sorted.perm.nodup_iff.mpr (Diagnostic.nodup_dedup _), ?_⟩
    rw [printout, lines]
    rfl
  · intro reader component arguments file settings checks
    refine ⟨finished component file settings check, checks.run_eq ran component, rfl,
      status_finished component file settings check, ?_⟩
    tfae_have 1 ↔ 4 := status_finished_eq_zero_iff component file settings check
    tfae_have 2 ↔ 4 := check.toJson_isValid_iff
    tfae_have 3 ↔ 4 := check.startsWith_indented_iff
    tfae_have 4 ↔ 5 := Diagnostic.allValid_iff_errors_eq_nil
    tfae_have 5 ↔ 6 := by
      rw [← List.length_eq_zero_iff, ← List.length_eq_zero_iff, errorCount]
      rfl
    tfae_have 5 ↔ 7 := by
      simp only [Report.accepts_closingLine_text_iff, forall_const]
    tfae_finish

/-- A file with an unknown name on an indented line is refused with one error and one warning. -/
theorem refused_in_every_view :
    ∃ check output, Check.run {} " OUTPUT y" = .ok check ∧
      run (fun _ => .ok [32, 79, 85, 84, 80, 85, 84, 32, 121]) "cli" ["a.txt"] = .ok output ∧
      output.status = 2 ∧ (Summary.ofDiagnostics check.diagnostics).errors = 1 ∧
      (DiagnosticRow.warningRows (DiagnosticRow.ofDiagnostics check.diagnostics)).length = 1 := by
  obtain ⟨check, ran⟩ : ∃ check, Check.run {} " OUTPUT y" = .ok check := ⟨_, rfl⟩
  have counts : (Summary.ofDiagnostics (Check.outcome {} " OUTPUT y").diagnostics).errors = 1 ∧
      (Summary.ofDiagnostics (Check.outcome {} " OUTPUT y").diagnostics).warnings = 1 := by
    decide +kernel
  rw [← (Check.run_eq_ok ran).1] at counts
  have checks : Checks (fun _ => .ok [32, 79, 85, 84, 80, 85, 84, 32, 121]) ["a.txt"] "a.txt" {}
      {} " OUTPUT y" := ⟨rfl, rfl, rfl, ⟨_, rfl, rfl⟩⟩
  obtain ⟨-, -, errors, warnings, command⟩ := views_agree ran
  obtain ⟨output, ended, -, status, verdicts⟩ := command _ "cli" _ _ _ checks
  refine ⟨check, output, ran, ended, status.resolve_left fun accepted => ?_, counts.1,
    warnings.trans counts.2⟩
  have noError := (verdicts.out 0 5).mp accepted
  rw [noError, counts.1] at errors
  cases errors

end Command

end PseudoLint
