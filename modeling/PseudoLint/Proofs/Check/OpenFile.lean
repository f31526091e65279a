import PseudoLint.Proofs.Check.Verdict
import PseudoLint.Proofs.Config
import PseudoLint.Proofs.Form.FileMode
import PseudoLint.Proofs.Line
import PseudoLint.Proofs.Literal
import PseudoLint.Proofs.Text.UpperCase

/-! # Opening a quoted file

What is wrong with the openings of a source can be told line by line, without a state. On a program
that only opens a quoted file in a configured mode, written in capitals or small letters, nothing is
wrong if the name of the file has no blanks. A name with a blank is cut there, and the mode is then
read from within the name or not at all.
-/

namespace PseudoLint

namespace Check

/-- The diagnostics on openings are what the rule on openings finds on the lines with content. -/
theorem mem_diagnostics_file_iff {config : Config} {source : Text} {check : Check}
    (ran : run config source = .ok check) {diagnostic : Diagnostic} :
    (diagnostic ∈ check.diagnostics ∧ diagnostic.code = "E043") ↔
      ∃ line ∈ Line.contentOf source, ∃ finding ∈ Rule.fileFindings config line.statement,
        diagnostic = finding.on line.number := by
  obtain ⟨rfl, -⟩ := run_eq_ok ran
  constructor
  · rintro ⟨member, code⟩
    obtain ⟨report, rfl, origin⟩ := report_of_mem_emitted (mem_diagnostics_iff.mp member)
    have topic : report.2.topic = .file := Finding.code_eq_file_iff.mp code
    have reported := origin.resolve_right (by rw [topic]; decide)
    obtain ⟨before, line, later, cut, number, found⟩ := mem_reports_iff.mp reported
    rw [mem_findings_iff, topic] at found
    refine ⟨line, ?_, report.2, found, ?_⟩
    · rw [cut]
      exact List.mem_append_right _ List.mem_cons_self
    · rw [worded, number]
  · rintro ⟨line, member, finding, found, rfl⟩
    have topic : finding.topic = .file := (Rule.about_of_mem_fileFindings finding found).2
    obtain ⟨before, later, cut⟩ := List.append_of_mem member
    refine ⟨mem_diagnostics_of_mem_findings cut ?_, Finding.code_eq_file_iff.mpr topic⟩
    rw [mem_findings_iff, topic]
    exact found

end Check

/-! ## The line -/

section

variable {name letters : Text} (quotable : '"' ∉ name) (oneLine : '\n' ∉ name)
  (plain : ∀ c ∈ letters, isAsciiLetter c = true) (given : letters ≠ [])

/-- The line of a program that only opens a quoted file. -/
def openingLine (name letters : Text) : Line :=
  ⟨1, opening name letters⟩

include plain in
theorem not_mem_letters {c : Char} (other : isAsciiLetter c = false) : c ∉ letters := by
  intro member
  rw [plain c member] at other
  cases other

include plain in
theorem isWordChar_of_mem_letters : ∀ c ∈ letters, isWordChar c = true := by
  intro c member
  apply isWordChar_of_isNameChar
  rw [isNameChar, plain c member, Bool.true_or, Bool.true_or]

theorem opening_append (name first second : Text) :
    opening name first ++ second = opening name (first ++ second) := by
  unfold opening
  simp only [List.append_assoc]

include plain given in
theorem solid_opening : Text.Solid (opening name letters) := by
  have last : isWordChar (letters.getLast given) = true :=
    isWordChar_of_mem_letters plain _ (List.getLast_mem given)
  refine ⟨⟨'O', _, rfl, by decide⟩, opening name letters.dropLast, letters.getLast given, ?_,
    not_isBlank_of_isWordChar last⟩
  rw [opening_append, List.dropLast_concat_getLast given]

include plain given in
theorem statement_openingLine :
    (openingLine name letters).statement = ⟨1, opening name letters⟩ := by
  rw [Line.statement, openingLine, (solid_opening plain given).trim_eq]

include oneLine plain in
theorem ofSource_opening : Line.ofSource (opening name letters) = [openingLine name letters] := by
  have free : '\n' ∉ opening name letters := by
    unfold opening
    simp only [List.mem_append, not_or]
    exact ⟨by decide, oneLine, by decide, not_mem_letters plain (by decide)⟩
  rw [Line.ofSource, Text.lines, List.splitOn_eq_singleton free]
  rfl

include oneLine plain given in
theorem contentOf_opening :
    Line.contentOf (opening name letters) = [openingLine name letters] := by
  have content : (openingLine name letters).isContent = true := by
    rw [Line.isContent, statement_openingLine plain given]
    rfl
  rw [Line.contentOf, ofSource_opening oneLine plain]
  simp [content]

include plain in
theorem not_mem_plainOpening {c : Char} (fixed : c ∉ "OPENFILE ".toList ++ " FOR ".toList)
    (other : isAsciiLetter c = false) :
    c ∉ "OPENFILE ".toList ++ (" FOR ".toList ++ letters) := by
  rw [← List.append_assoc, List.mem_append, not_or]
  exact ⟨fixed, not_mem_letters plain other⟩

include quotable plain in
/-- Outside the name an opening is as it is written. -/
theorem leavesPlain_opening :
    LeavesPlain (opening name letters) ("OPENFILE ".toList ++ (" FOR ".toList ++ letters)) where
  outside := by
    have parts : opening name letters =
        "OPENFILE ".toList ++ '"' :: (name ++ '"' :: (" FOR ".toList ++ letters)) := rfl
    have behind : '"' ∉ " FOR ".toList ++ letters := by
      rw [List.mem_append, not_or]
      exact ⟨by decide, not_mem_letters plain (by decide)⟩
    rw [parts, dropQuoted_append (by decide), dropQuoted_literal quotable,
      dropQuoted_of_free behind]
  quotes := not_mem_plainOpening plain (by decide) (by decide)
  apostrophes := not_mem_plainOpening plain (by decide) (by decide)
  slashes := not_mem_plainOpening plain (by decide) (by decide)

include quotable plain given in
theorem not_overlong_openingLine (config : Config) :
    ¬ (openingLine name letters).Overlong config := by
  have code := (leavesPlain_opening quotable plain).codeOf_eq
  rw [Line.overlong_iff_of_solid ⟨'O', _, rfl, rfl⟩]
  apply Statement.not_overlong_of_free
  rw [statement_openingLine plain given, Statement.code, code]
  exact mt Text.mem_of_mem_trim (not_mem_plainOpening plain (by decide) (by decide))

/-- What is found on the opening depends on the mode that is read off it. -/
def modeFindings (config : Config) : Option Text → List Finding
  | some mode =>
    Rule.whenever (!config.fileModes.contains mode.upper)
      (.invalidFileMode mode.upper config.fileModes)
  | none => [.openFileShape config.fileModes]

include plain given in
theorem fileFindings_openingLine (config : Config) :
    Rule.fileFindings config (openingLine name letters).statement =
      modeFindings config (modeRead? name letters) := by
  have read : Form.fileMode.first? (opening name letters) = modeRead? name letters :=
    Form.first?_fileMode_opening given (isWordChar_of_mem_letters plain)
  have opens : Text.startsWith (opening name letters) "OPENFILE" = true := rfl
  have named : Text.hasInfix (opening name letters) "FOR" = true := by
    apply Text.hasInfix_iff.mpr
    refine ⟨"OPENFILE \"".toList ++ (name ++ "\" ".toList), ' ' :: letters, ?_⟩
    unfold opening
    simp only [List.append_assoc]
    rfl
  rw [statement_openingLine plain given, Rule.fileFindings, Statement.startsWith, if_pos opens,
    Rule.openFileFindings, read]
  cases modeRead? name letters with
  | some mode => rfl
  | none => exact if_pos named

end

namespace Check

/-- A program that only opens a quoted file in a configured mode, in capitals or small letters, is
checked to its end. Nothing is wrong with the opening if the name has no blanks. In general the mode
that is read off the opening must be a configured one, and some mode must be read. -/
theorem quoted_file_mode_judged {json : Json} {config : Config}
    (accepted : Config.ofJson json = .ok config) {mode letters name : Text}
    (configured : mode ∈ config.fileModes) (plain : ∀ c ∈ mode, isAsciiLetter c = true)
    (variant : letters.map Char.toUpper = mode.map Char.toUpper)
    (quotable : '"' ∉ name) (oneLine : '\n' ∉ name) :
    ∃ check, run config (opening name letters) = .ok check ∧
      ((∀ c ∈ name, isBlank c = false) →
        ∀ diagnostic ∈ check.diagnostics, diagnostic.code ≠ "E043") ∧
      ∀ diagnostic, (diagnostic ∈ check.diagnostics ∧ diagnostic.code = "E043") ↔
        ∃ finding ∈ modeFindings config (modeRead? name letters), diagnostic = finding.on 1 := by
  obtain ⟨text, nonempty, rfl⟩ := Config.upper_of_mem_fileModes accepted mode configured
  rw [Text.map_toUpper_upper] at variant
  have word := Text.isAsciiLetter_of_spelled plain variant
  have given : letters ≠ [] := by
    rintro rfl
    exact Text.upper_ne_nil nonempty variant.symm
  have unit : config.indentUnit ≠ 0 := by
    have positive := Config.indentUnit_pos accepted
    omega
  have readable : ∀ line ∈ Line.contentOf (opening name letters), ¬ line.Overlong config := by
    rw [contentOf_opening oneLine word given, List.forall_mem_singleton]
    exact not_overlong_openingLine quotable word given config
  have ran := run_of_readable unit readable
  have judged : ∀ diagnostic,
      (diagnostic ∈ (outcome config (opening name letters)).diagnostics ∧
        diagnostic.code = "E043") ↔
          ∃ finding ∈ modeFindings config (modeRead? name letters), diagnostic = finding.on 1 := by
    intro diagnostic
    rw [mem_diagnostics_file_iff ran, contentOf_opening oneLine word given,
      ← fileFindings_openingLine word given]
    simp only [List.mem_singleton, exists_eq_left, openingLine]
  refine ⟨_, ran, ?_, judged⟩
  intro solid diagnostic member code
  obtain ⟨finding, found, -⟩ := (judged diagnostic).mp ⟨member, code⟩
  have whole : modeRead? name letters = some letters :=
    if_pos (List.all_eq_true.mpr fun c inside => by rw [solid c inside, Bool.not_false])
  have known : config.fileModes.contains letters.upper = true := by
    rw [Text.upper_of_spelled plain variant]
    exact List.contains_iff_mem.mpr configured
  rw [whole, modeFindings, known] at found
  cases found

/-- Without a blank the name is passed over, and with blanks a mode is read from within it. -/
theorem modes_of_two_quoted_names :
    Config.ofJson (.obj [("file_modes", .arr [.str "Random"])]) =
        .ok { fileModes := ["RANDOM"] } ∧
      (∃ check, run { fileModes := ["RANDOM"] } "OPENFILE \"data.txt\" FOR rAndom" = .ok check ∧
        ∀ diagnostic ∈ check.diagnostics, diagnostic.code ≠ "E043") ∧
      ∃ check, run { fileModes := ["RANDOM"] } "OPENFILE \"a FOR b\" FOR rAndom" = .ok check ∧
        ∀ diagnostic, (diagnostic ∈ check.diagnostics ∧ diagnostic.code = "E043") ↔
          diagnostic = (Finding.invalidFileMode "B" ["RANDOM"]).on 1 := by
  have accepted : Config.ofJson (.obj [("file_modes", .arr [.str "Random"])]) =
      .ok { fileModes := ["RANDOM"] } := rfl
  have configured : "RANDOM".toList ∈ ({ fileModes := ["RANDOM"] } : Config).fileModes := by decide
  have plain : ∀ c ∈ "RANDOM".toList, isAsciiLetter c = true := List.all_eq_true.mp (by decide)
  have variant : "rAndom".toList.map Char.toUpper = "RANDOM".toList.map Char.toUpper := by decide
  refine ⟨accepted, ?_, ?_⟩
  · obtain ⟨check, ran, silent, -⟩ :=
      @quoted_file_mode_judged _ _ accepted "RANDOM" "rAndom" "data.txt" configured plain variant
        (by decide) (by decide)
    exact ⟨check, ran, silent (List.all_iff_forall_prop.mp (by decide))⟩
  · obtain ⟨check, ran, -, judged⟩ :=
      @quoted_file_mode_judged _ _ accepted "RANDOM" "rAndom" "a FOR b" configured plain variant
        (by decide) (by decide)
    have read : modeFindings { fileModes := ["RANDOM"] } (modeRead? "a FOR b" "rAndom") =
        [.invalidFileMode "B" ["RANDOM"]] := by
      decide +kernel
    rw [read] at judged
    refine ⟨check, ran, fun diagnostic => (judged diagnostic).trans ?_⟩
    simp only [List.mem_singleton, exists_eq_left]

/-- The opening of a file whose quoted name has a blank is refused, although its mode is one of the
configured ones. -/
theorem blank_in_quoted_name_refused :
    "READ".toList ∈ ({} : Config).fileModes ∧
      ∃ check, run {} "OPENFILE \"my data.txt\" FOR READ" = .ok check ∧ check.isValid = false ∧
        check.diagnostics = [(Finding.openFileShape ["READ", "WRITE", "APPEND"]).on 1] := by
  have facts : "READ".toList ∈ ({} : Config).fileModes ∧
      (run {} "OPENFILE \"my data.txt\" FOR READ").isOk = true ∧
      (outcome {} "OPENFILE \"my data.txt\" FOR READ").isValid = false ∧
      (outcome {} "OPENFILE \"my data.txt\" FOR READ").diagnostics =
        [(Finding.openFileShape ["READ", "WRITE", "APPEND"]).on 1] := by
    decide +kernel
  obtain ⟨configured, succeeds, refused, found⟩ := facts
  exact ⟨configured, _, run_of_isOk {} _ succeeds, refused, found⟩

end Check

end PseudoLint
