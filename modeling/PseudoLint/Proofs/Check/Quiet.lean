import PseudoLint.Proofs.Block.Acceptance

/-! # Checks that report nothing

A line is quiet if no rule can find anything on it but that its first word is out of place among the
blocks. If all lines of a source are quiet, its words are well nested and the sweeps find nothing,
then the check reports nothing at all.
-/

namespace PseudoLint.Check

/-- Only the place of its first word among the blocks can be wrong with the line. -/
structure Quiet (config : Config) (line : Line) (table : SymbolTable) : Prop where
  layout : Rule.layoutFindings config line = []
  wording : Rule.wordingFindings line.statement = []
  unknown : Rule.unknownWordFindings line.statement table = []
  later : Rule.laterFindings config line.statement table = []

theorem Quiet.findings_eq {config : Config} {line : Line} {state : State}
    (quiet : Quiet config line state.table) :
    findings config line state = (Rule.turnBlocks line.statement state.blocks).2 := by
  simp only [findings, quiet.layout, quiet.wording, quiet.unknown, quiet.later, List.nil_append,
    List.append_nil]

/-- Every line is quiet in the table that the lines before it leave. -/
def Silent (config : Config) : List Line → SymbolTable → Prop
  | [], _ => True
  | line :: rest, table =>
    Quiet config line table ∧ Silent config rest (Rule.registered line.statement table)

theorem Silent.layout {config : Config} {lines : List Line} {table : SymbolTable}
    (silent : Silent config lines table) :
    ∀ line ∈ lines, Rule.layoutFindings config line = [] := by
  induction lines generalizing table with
  | nil =>
    intro line member
    cases member
  | cons line rest ih =>
    obtain ⟨quiet, later⟩ := silent
    exact List.forall_mem_cons.mpr ⟨quiet.layout, ih later⟩

theorem Silent.isNesting_of_mem_reports {config : Config} {lines : List Line} {state : State}
    (silent : Silent config lines state.table) :
    ∀ report ∈ reports config lines state, report.2.isNesting = true := by
  induction lines generalizing state with
  | nil =>
    intro report member
    cases member
  | cons line rest ih =>
    obtain ⟨quiet, later⟩ := silent
    rw [reports, quiet.findings_eq]
    intro report member
    rcases List.mem_append.mp member with here | there
    · obtain ⟨finding, found, rfl⟩ := List.mem_map.mp here
      exact Rule.isNesting_of_mem_turnBlocks finding found
    · have advanced : Silent config rest (advance line.statement state).table := later
      exact ih advanced report there

/-- Quiet lines whose words are well nested leave no report and no open block. -/
theorem Silent.reports_eq_nil {config : Config} {lines : List Line}
    (silent : Silent config lines {}) (nested : Nesting.WellNested (Nesting.blockWords lines)) :
    reports config lines {} = [] ∧ (after lines {}).blocks = [] := by
  have reading : Nesting.read (Nesting.keywords ({} : State).blocks) (Nesting.blockWords lines) =
      some [] := Nesting.wellNested_iff_read.mp nested
  obtain ⟨ordinary, closed⟩ := (read_blockWords_eq_some_iff config start_known).mp reading
  constructor
  · apply List.eq_nil_iff_forall_not_mem.mpr
    intro report member
    have nesting := silent.isNesting_of_mem_reports report member
    rw [ordinary report member] at nesting
    cases nesting
  · exact List.map_eq_nil_iff.mp closed

/-- A source with content whose lines are quiet, whose words are well nested and in which the sweeps
find nothing is accepted without a diagnostic. -/
theorem emitted_eq_nil {config : Config} {source : Text}
    (content : Line.anyContent (Line.ofSource source) = true)
    (silent : Silent config (Line.contentOf source) {})
    (nested : Nesting.WellNested (Nesting.blockWords (Line.contentOf source)))
    (swept : ∀ table, Sweep.all table ((Line.ofSource source).map Line.statement) = []) :
    (outcome config source).emitted = [] := by
  obtain ⟨reported, closed⟩ := silent.reports_eq_nil nested
  simp only [outcome, content, ↓reduceIte, reported, closed, swept, BlockStack.unclosed,
    List.reverse_nil, List.map_nil, List.append_nil]

end PseudoLint.Check
