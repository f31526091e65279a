import Mathlib.Data.List.Induction
import PseudoLint.Proofs.Block.Acceptance
import PseudoLint.Proofs.Check.Order

/-! # Counting blocks

Every closing word takes a block off the stack, whichever opened it, unless no block is open; then
it is a stray and is reported. So the height of the stack, together with the number of closing words
that were read beyond the opening ones, is the number of strays (`length_blocks_after`). The height
is zero behind a stray, so the number of strays is reached by the prefix that ends with the last one
and exceeded by none: it is the greatest deficit of a prefix. No two strays stand on one line and no
two blocks that remain are opened on one line, so removing duplicates changes neither number. -/

namespace PseudoLint

namespace Nesting

/-- Whether a line opens a block. -/
def opens (line : Line) : Bool :=
  Keyword.isOpener line.statement.firstWord

/-- Whether a line closes a block, if one is open. -/
def closes (line : Line) : Bool :=
  Keyword.isCloser line.statement.firstWord

/-- How many more of some lines close a block than open one. -/
def deficit (lines : List Line) : Int :=
  lines.countP closes - lines.countP opens

theorem deficit_append (first second : List Line) :
    deficit (first ++ second) = deficit first + deficit second := by
  simp only [deficit, List.countP_append, Int.natCast_add]
  omega

/-- No word both opens and closes. -/
theorem not_opens_of_closes {line : Line} (closing : closes line = true) : opens line = false :=
  not_isOpener_of_isCloser closing

theorem not_closes_of_opens {line : Line} (opening : opens line = true) : closes line = false := by
  cases closing : closes line with
  | false => rfl
  | true =>
    rw [not_opens_of_closes closing] at opening
    cases opening

theorem deficit_opening {line : Line} (opening : opens line = true) : deficit [line] = -1 := by
  simp [deficit, opening, not_closes_of_opens opening]

theorem deficit_closing {line : Line} (closing : closes line = true) : deficit [line] = 1 := by
  simp [deficit, closing, not_opens_of_closes closing]

theorem deficit_plain {line : Line} (still : opens line = false) (plain : closes line = false) :
    deficit [line] = 0 := by
  simp [deficit, still, plain]

end Nesting

/-! ## Strays -/

namespace Check

open Nesting

/-- What a line can do to the open blocks. -/
inductive Turns (line : Line) : BlockStack → BlockStack × List Finding → Prop
  | opened {blocks : BlockStack} (opening : opens line = true) :
      Turns line blocks (Check.opening line :: blocks, [])
  | stray (closing : closes line = true) :
      Turns line [] ([], [.unexpectedCloser line.statement.firstWord])
  | closed {frame : Frame} {rest : BlockStack} {findings : List Finding}
      (closing : closes line = true)
      (mismatched : ∀ finding ∈ findings,
        ∃ expected found, finding = .mismatchedCloser expected found) :
      Turns line (frame :: rest) (rest, findings)
  | kept {blocks : BlockStack} (still : opens line = false) (plain : closes line = false) :
      Turns line blocks (blocks, [])

theorem turns_turnBlocks (line : Line) (blocks : BlockStack) :
    Turns line blocks (Rule.turnBlocks line.statement blocks) := by
  unfold Rule.turnBlocks
  dsimp only
  split
  · rename_i opening
    exact .opened opening
  · rename_i still
    split
    · rename_i closing
      cases blocks with
      | nil => exact .stray closing
      | cons frame rest => exact .closed closing (Rule.forall_mem_whenever ⟨_, _, rfl⟩)
    · rename_i plain
      exact .kept (Bool.eq_false_iff.mpr still) (Bool.eq_false_iff.mpr plain)

/-- Whether a line closes a block where none is open. -/
def isStray (line : Line) (state : State) : Bool :=
  closes line && state.blocks.isEmpty

/-- No block is open behind a stray. -/
theorem blocks_advance_of_isStray {line : Line} {state : State}
    (stray : isStray line state = true) :
    (advance line.statement state).blocks = [] := by
  obtain ⟨closing, empty⟩ := Bool.and_eq_true_iff.mp stray
  have turned := turns_turnBlocks line state.blocks
  rw [List.isEmpty_iff.mp empty] at turned
  simp only [advance, List.isEmpty_iff.mp empty]
  generalize Rule.turnBlocks line.statement [] = result at turned
  cases turned with
  | opened opening =>
    rw [not_closes_of_opens opening] at closing
    cases closing
  | stray => rfl
  | kept => rfl

/-- The lines among some lines that close a block where none is open. -/
def strays : List Line → State → List Line
  | [], _ => []
  | line :: rest, state =>
    if isStray line state then line :: strays rest (advance line.statement state)
    else strays rest (advance line.statement state)

theorem strays_append (first second : List Line) (state : State) :
    strays (first ++ second) state = strays first state ++ strays second (after first state) := by
  induction first generalizing state with
  | nil => rfl
  | cons line rest ih =>
    simp only [List.cons_append, strays, ih, after_cons]
    split <;> rfl

theorem strays_sublist (lines : List Line) (state : State) :
    (strays lines state).Sublist lines := by
  induction lines generalizing state with
  | nil => exact .slnil
  | cons line rest ih =>
    rw [strays]
    split
    · exact (ih _).cons_cons line
    · exact (ih _).cons line

/-- One line changes the height of the stack by what it opens and closes, unless it is a stray. -/
theorem length_blocks_advance (line : Line) (state : State) :
    ((advance line.statement state).blocks.length : Int) + deficit [line] =
      state.blocks.length + (strays [line] state).length := by
  obtain ⟨table, blocks⟩ := state
  have turned := turns_turnBlocks line blocks
  simp only [advance, strays, isStray]
  generalize Rule.turnBlocks line.statement blocks = result at turned
  cases turned with
  | opened opening =>
    simp only [deficit_opening opening, not_closes_of_opens opening, Bool.false_and,
      Bool.false_eq_true, ↓reduceIte, List.length_cons, List.length_nil]
    omega
  | stray closing => simp [deficit_closing closing, closing]
  | closed closing => simp [deficit_closing closing]
  | kept still plain => simp [deficit_plain still plain, plain]

/-- The height of the stack and the deficit of the lines make up the strays. -/
theorem length_blocks_after (lines : List Line) (state : State) :
    ((after lines state).blocks.length : Int) + deficit lines =
      state.blocks.length + (strays lines state).length := by
  induction lines generalizing state with
  | nil => rfl
  | cons line rest ih =>
    have here := length_blocks_advance line state
    have there := ih (advance line.statement state)
    rw [← List.singleton_append, deficit_append, strays_append, List.length_append]
    rw [List.singleton_append, after_cons, after_cons, after_nil]
    omega

/-- No beginning of the lines has a greater deficit than there are strays. -/
theorem deficit_le_length_strays {lines before : List Line} (beginning : before <+: lines) :
    deficit before ≤ (strays lines {}).length := by
  obtain ⟨later, rfl⟩ := beginning
  have height := length_blocks_after before {}
  rw [strays_append, List.length_append]
  simp only [List.length_nil] at height
  omega

/-- The beginning that ends with the last stray has a deficit of the number of strays. -/
theorem exists_deficit_eq_length_strays (lines : List Line) :
    ∃ before, before <+: lines ∧ deficit before = (strays lines {}).length := by
  induction lines using List.reverseRecOn with
  | nil => exact ⟨[], List.prefix_rfl, rfl⟩
  | append_singleton earlier line ih =>
    cases stray : isStray line (after earlier {}) with
    | true =>
      refine ⟨earlier ++ [line], List.prefix_rfl, ?_⟩
      have height := length_blocks_after (earlier ++ [line]) {}
      rw [after_append, after_cons, after_nil, blocks_advance_of_isStray stray] at height
      simp only [List.length_nil] at height
      omega
    | false =>
      obtain ⟨before, beginning, reached⟩ := ih
      refine ⟨before, beginning.trans (List.prefix_append ..), ?_⟩
      rw [strays_append, strays, stray, reached]
      simp [strays]

end Check

/-! ## Reports -/

namespace Diagnostic

/-- Whether a diagnostic is about a closing word that closes nothing. -/
def reportsUnexpected (diagnostic : Diagnostic) : Bool :=
  diagnostic.message.startsWith "Unexpected " &&
    (" without matching opening" : Text).isSuffixOf diagnostic.message

/-- Whether a diagnostic is about a block that is never closed. -/
def reportsUnmatched (diagnostic : Diagnostic) : Bool :=
  diagnostic.message.startsWith "Unmatched "

end Diagnostic

namespace Finding

/-- Whether a finding is about a closing word that closes nothing. -/
def isUnexpected : Finding → Bool
  | .unexpectedCloser _ => true
  | _ => false

/-- Whether a finding is about a block that is never closed. -/
def isUnmatched : Finding → Bool
  | .unmatchedOpener _ _ => true
  | _ => false

theorem isNesting_of_isUnexpected {finding : Finding} (unexpected : finding.isUnexpected = true) :
    finding.isNesting = true := by
  cases finding with
  | unexpectedCloser closer => rfl
  | _ => cases unexpected

theorem isNesting_of_isUnmatched {finding : Finding} (unmatched : finding.isUnmatched = true) :
    finding.isNesting = true := by
  cases finding with
  | unmatchedOpener opener closer => rfl
  | _ => cases unmatched

theorem isUnexpected_eq (finding : Finding) :
    finding.isUnexpected = (finding.opening == "Unexpected ") := by
  unfold opening isUnexpected
  cases finding <;> dsimp only <;> (repeat rw [String.toList_ofList]) <;> rfl

theorem isUnmatched_eq (finding : Finding) :
    finding.isUnmatched = (finding.opening == "Unmatched ") := by
  unfold opening isUnmatched
  cases finding <;> dsimp only <;> (repeat rw [String.toList_ofList]) <;> rfl

end Finding

namespace Check

open Nesting

theorem reportsUnmatched_worded (report : Int × Finding) :
    (worded report).reportsUnmatched = report.2.isUnmatched := by
  have member : (("Unmatched " : Text), some (Severity.error, ("E020" : Text))) ∈
      Finding.openings := by
    simp only [Finding.openings, List.mem_cons, true_or, or_true]
  rw [Finding.isUnmatched_eq]
  exact Finding.startsWith_message_eq member

theorem reportsUnexpected_worded (report : Int × Finding) :
    (worded report).reportsUnexpected = report.2.isUnexpected := by
  have member : (("Unexpected " : Text), some (Severity.error, ("E020" : Text))) ∈
      Finding.openings := by
    simp only [Finding.openings, List.mem_cons, true_or, or_true]
  have begins : (worded report).message.startsWith "Unexpected " = report.2.isUnexpected := by
    rw [Finding.isUnexpected_eq]
    exact Finding.startsWith_message_eq member
  obtain ⟨line, finding⟩ := report
  rw [Diagnostic.reportsUnexpected, begins]
  cases finding with
  | unexpectedCloser closer =>
    exact List.isSuffixOf_iff_suffix.mpr (List.suffix_append ..)
  | _ => rfl

/-! ## What the lines report -/

/-- The report on a closing word that closes nothing. -/
def strayReport (line : Line) : Int × Finding :=
  (line.number, .unexpectedCloser line.statement.firstWord)

theorem filter_isUnexpected_findings (config : Config) (line : Line) (state : State) :
    ((findings config line state).filter Finding.isUnexpected).map (line.number, ·) =
      (strays [line] state).map strayReport := by
  have nesting : ∀ finding : Finding, finding.isUnexpected = true → finding.topic = .nesting :=
    fun _ unexpected => Finding.isNesting_iff.mp (Finding.isNesting_of_isUnexpected unexpected)
  rw [filter_findings_of_topic nesting]
  obtain ⟨table, blocks⟩ := state
  have turned := turns_turnBlocks line blocks
  simp only [strays, isStray, onTopic]
  generalize Rule.turnBlocks line.statement blocks = result at turned
  cases turned with
  | opened opening => simp [not_closes_of_opens opening]
  | stray closing => simp [closing, Finding.isUnexpected, strayReport]
  | @closed frame rest found closing mismatched =>
    have expected : found.filter Finding.isUnexpected = [] := by
      refine List.filter_eq_nil_iff.mpr fun finding member => ?_
      obtain ⟨expected, word, rfl⟩ := mismatched finding member
      exact Bool.false_ne_true
    simp [expected]
  | kept still plain => simp [plain]

theorem filter_isUnexpected_reports (config : Config) (lines : List Line) (state : State) :
    (reports config lines state).filter (·.2.isUnexpected) =
      (strays lines state).map strayReport := by
  induction lines generalizing state with
  | nil => rfl
  | cons line rest ih =>
    have here := filter_isUnexpected_findings config line state
    rw [← List.singleton_append, strays_append, List.map_append, ← here, List.singleton_append,
      reports, List.filter_append, ih, List.filter_map]
    rfl

/-- The line pass never says that a block is left open. -/
theorem not_isUnmatched_of_mem_reports {config : Config} {lines : List Line} {state : State}
    {report : Int × Finding} (member : report ∈ reports config lines state) :
    report.2.isUnmatched = false := by
  obtain ⟨before, line, later, -, -, found⟩ := mem_reports_iff.mp member
  have onBlocks : ∀ finding ∈ (Rule.turnBlocks line.statement (after before state).blocks).2,
      finding.isUnmatched = false := by
    intro finding present
    have turned := turns_turnBlocks line (after before state).blocks
    generalize (after before state).blocks = blocks at turned present
    generalize Rule.turnBlocks line.statement blocks = result at turned present
    cases turned with
    | opened | kept => cases present
    | stray => rw [List.mem_singleton.mp present]; rfl
    | closed _ mismatched =>
      obtain ⟨expected, word, rfl⟩ := mismatched finding present
      rfl
  rcases ordinary_of_mem_findings found with nesting | ordinary
  · exact onBlocks report.2 nesting
  · refine Bool.eq_false_iff.mpr fun unmatched => Bool.false_ne_true ?_
    exact ordinary.2.symm.trans (Finding.isNesting_of_isUnmatched unmatched)

/-! ## What is left without duplicates -/

/-- The diagnostics of a kind that is about nesting come from the line pass and from the blocks
that are left open. If they stand on different lines, removing duplicates keeps them all. -/
theorem filter_diagnostics {config : Config} {source : Text}
    (content : Line.anyContent (Line.ofSource source) = true) {keep : Diagnostic → Bool}
    {about : Finding → Bool} (worded_eq : ∀ report, keep (worded report) = about report.2)
    (message : ∀ first second : Diagnostic, first.message = second.message →
      keep first = keep second)
    (nesting : ∀ finding, about finding = true → finding.isNesting = true)
    {found : List Diagnostic}
    (ordered : found.Pairwise fun first second => first.line < second.line)
    (parts : ((reports config (Line.contentOf source) {}).filter (about ·.2)).map worded ++
      ((after (Line.contentOf source) {}).blocks.unclosed.filter
        fun frame => about (unmatchedReport frame).2).map
          (fun frame => worded (unmatchedReport frame)) = found) :
    (outcome config source).diagnostics.filter keep = found := by
  have swept : (Sweep.all (after (Line.contentOf source) {}).table
      ((Line.ofSource source).map Line.statement)).filter keep = [] := by
    refine List.filter_eq_nil_iff.mpr fun diagnostic member kept => ?_
    obtain ⟨report, rfl, ordinary⟩ := Sweep.worded_of_mem_all member
    rw [worded_eq] at kept
    exact Bool.false_ne_true (ordinary.2.symm.trans (nesting _ kept))
  have emitted : (outcome config source).emitted.filter keep = found := by
    rw [emitted_outcome content, List.filter_append, List.filter_append, swept, List.append_nil,
      List.filter_map, List.filter_map, ← parts]
    simp only [Function.comp_def, worded_eq]
  rw [diagnostics, Diagnostic.dedup_filter, emitted]
  · refine Diagnostic.dedup_eq_self (ordered.imp ?_)
    intro first second before same
    have lines : first.line = second.line := congrArg Prod.fst same
    omega
  · intro first _ second _ same
    exact message first second (congrArg Prod.snd same)

/-- The diagnostics on closing words that close nothing. -/
theorem filter_reportsUnexpected {config : Config} {source : Text}
    (content : Line.anyContent (Line.ofSource source) = true) :
    (outcome config source).diagnostics.filter Diagnostic.reportsUnexpected =
      (strays (Line.contentOf source) {}).map fun line => worded (strayReport line) := by
  apply filter_diagnostics content reportsUnexpected_worded
  · intro first second same
    rw [Diagnostic.reportsUnexpected, same, Diagnostic.reportsUnexpected]
  · exact fun _ => Finding.isNesting_of_isUnexpected
  · exact List.pairwise_map.mpr
      ((Line.pairwise_contentOf source).sublist (strays_sublist _ _))
  · have unclosed : ((after (Line.contentOf source) {}).blocks.unclosed.filter
        fun frame => (unmatchedReport frame).2.isUnexpected) = [] :=
      List.filter_eq_nil_iff.mpr fun _ _ => Bool.false_ne_true
    rw [filter_isUnexpected_reports, unclosed, List.map_nil, List.append_nil, List.map_map]
    rfl

/-- The diagnostics on blocks that are never closed. -/
theorem filter_reportsUnmatched {config : Config} {source : Text}
    (content : Line.anyContent (Line.ofSource source) = true) :
    (outcome config source).diagnostics.filter Diagnostic.reportsUnmatched =
      unclosedDiagnostics (Line.contentOf source) := by
  apply filter_diagnostics content reportsUnmatched_worded
  · intro first second same
    rw [Diagnostic.reportsUnmatched, same, Diagnostic.reportsUnmatched]
  · exact fun _ => Finding.isNesting_of_isUnmatched
  · exact pairwise_unclosedDiagnostics (ascending_contentOf source)
  · have passed : (reports config (Line.contentOf source) {}).filter (·.2.isUnmatched) = [] :=
      List.filter_eq_nil_iff.mpr fun _ member =>
        Bool.eq_false_iff.mp (not_isUnmatched_of_mem_reports member)
    have unclosed : ((after (Line.contentOf source) {}).blocks.unclosed.filter
        fun frame => (unmatchedReport frame).2.isUnmatched) =
          (after (Line.contentOf source) {}).blocks.unclosed :=
      List.filter_eq_self.mpr fun _ _ => rfl
    rw [passed, unclosed]
    rfl

/-- Every block that is open after some lines was opened by one of them. -/
theorem exists_opening_of_mem_blocks {lines : List Line} {frame : Frame}
    (member : frame ∈ (after lines {}).blocks) :
    ∃ line ∈ lines, opens line = true ∧ frame = ⟨line.statement.firstWord, line.number⟩ := by
  have known := after_known start_known frame member
  have remains : frame ∈ (after lines {}).blocks.unclosed := List.mem_reverse.mpr member
  obtain ⟨line, present, rfl⟩ := List.mem_map.mp ((unclosed_after_sublist lines).subset remains)
  exact ⟨line, present, known, rfl⟩

/-- As many closing words are reported as the greatest deficit of a beginning of the lines, the
empty one included. The blocks reported are those that the stack still holds, each on the line that
opened it, and their number is that of the closing words reported and the opening words together,
less the closing words. -/
theorem nesting_reports_counted {config : Config} {source : Text} {check : Check}
    (content : Line.anyContent (Line.ofSource source) = true)
    (ran : run config source = .ok check) :
    let lines := Line.contentOf source
    let unexpected := check.diagnostics.countP Diagnostic.reportsUnexpected
    let unmatched := check.diagnostics.filter Diagnostic.reportsUnmatched
    (∀ before, before <+: lines → deficit before ≤ unexpected) ∧
    (∃ before, before <+: lines ∧ deficit before = unexpected) ∧
    (unmatched.length : Int) = unexpected + lines.countP opens - lines.countP closes ∧
    (unmatched = check.state.blocks.unclosed.map fun frame =>
      ⟨frame.line, "Unmatched " ++ frame.keyword ++ " - missing " ++ frame.closer?.getD [], .error,
        "E020"⟩) ∧
    ∀ frame ∈ check.state.blocks,
      ∃ line ∈ lines, opens line = true ∧ frame = ⟨line.statement.firstWord, line.number⟩ := by
  obtain ⟨rfl, -⟩ := run_eq_ok ran
  have counted : (outcome config source).diagnostics.countP Diagnostic.reportsUnexpected =
      (strays (Line.contentOf source) {}).length := by
    rw [List.countP_eq_length_filter, filter_reportsUnexpected content, List.length_map]
  have height := length_blocks_after (Line.contentOf source) {}
  simp only [counted, filter_reportsUnmatched content, state_outcome]
  refine ⟨fun before => deficit_le_length_strays, exists_deficit_eq_length_strays _, ?_, rfl,
    fun frame => exists_opening_of_mem_blocks⟩
  simp only [unclosedDiagnostics, BlockStack.unclosed, List.length_map, List.length_reverse]
  simp only [deficit, List.length_nil] at height
  omega

/-- Closing words of other families take blocks off as well. Two words find none and two blocks
remain. -/
theorem strays_of_mixed_families_counted :
    let source : Text := "ENDIF\nIF a THEN\nNEXT\nUNTIL b\nWHILE c\nFOR i ← 1 TO 2"
    Line.anyContent (Line.ofSource source) = true ∧ ∃ check, run {} source = .ok check ∧
      check.diagnostics.countP Diagnostic.reportsUnexpected = 2 ∧
      (∃ before, before <+: Line.contentOf source ∧ deficit before = 2) ∧
      (check.diagnostics.filter Diagnostic.reportsUnmatched).length = 2 := by
  intro source
  have facts : (run {} source).isOk = true ∧ Line.anyContent (Line.ofSource source) = true ∧
      (outcome {} source).diagnostics.countP Diagnostic.reportsUnexpected = 2 ∧
      (Line.contentOf source).countP opens = 3 ∧ (Line.contentOf source).countP closes = 3 := by
    decide +kernel
  obtain ⟨returns, content, unexpected, opened, closed⟩ := facts
  have ran := run_of_isOk {} source returns
  obtain ⟨-, reached, unmatched, -⟩ := nesting_reports_counted content ran
  rw [unexpected] at reached unmatched
  rw [opened, closed] at unmatched
  exact ⟨content, _, ran, unexpected, reached, by omega⟩

end Check

end PseudoLint
