import PseudoLint.Proofs.Block.Nesting
import PseudoLint.Proofs.Check.Verdict

/-! # What the block check accepts

The block stack of a check follows the first words of the lines with content. Reading these words
with the machine of the grammar gives the keywords of the stack as long as nothing is reported, and
stops where a closing word is. So a source has no diagnostic on nesting exactly if its words are
well nested.
-/

namespace PseudoLint

namespace Nesting

/-- Whether a word opens or closes a block. -/
def isBlockWord (word : Text) : Bool :=
  Keyword.isOpener word || Keyword.isCloser word

/-- The words of some lines that open or close blocks, in order. -/
def blockWords (lines : List Line) : List Text :=
  (lines.map (·.statement.firstWord)).filter isBlockWord

/-- The words that opened the blocks of a stack. -/
def keywords (blocks : BlockStack) : List Text :=
  blocks.map Frame.keyword

theorem blockWords_cons (line : Line) (rest : List Line) :
    blockWords (line :: rest) =
      if isBlockWord line.statement.firstWord then line.statement.firstWord :: blockWords rest
      else blockWords rest := by
  simp only [blockWords, List.map_cons, List.filter_cons]

theorem blockWords_append (first second : List Line) :
    blockWords (first ++ second) = blockWords first ++ blockWords second := by
  simp only [blockWords, List.map_append, List.filter_append]

/-- One line moves the machine as it moves the block stack, and stops it where it reports. -/
theorem read_turnBlocks {blocks : BlockStack} (known : blocks.Known) (line : Line)
    (rest : List Line) :
    read (keywords blocks) (blockWords (line :: rest)) =
      if (Rule.turnBlocks line.statement blocks).2 = [] then
        read (keywords (Rule.turnBlocks line.statement blocks).1) (blockWords rest)
      else none := by
  rw [blockWords_cons, isBlockWord]
  cases opens : Keyword.isOpener line.statement.firstWord with
  | true =>
    simp only [Bool.true_or, ↓reduceIte, read_opener opens, Rule.turnBlocks, opens]
    rfl
  | false =>
    cases closes : Keyword.isCloser line.statement.firstWord with
    | false =>
      simp only [Bool.or_false, Bool.false_eq_true, ↓reduceIte, Rule.turnBlocks, opens, closes]
    | true =>
      simp only [Bool.or_true, ↓reduceIte, Rule.turnBlocks, opens, closes, Bool.false_eq_true, read]
      cases blocks with
      | nil => simp [keywords]
      | cons frame outer =>
        obtain ⟨closer, belongs⟩ := Option.isSome_iff_exists.mp (known frame List.mem_cons_self)
        have found : frame.closer? = some closer := belongs
        simp only [keywords, List.map_cons, belongs, found, Option.getD_some, Option.some.injEq]
        by_cases same : closer = line.statement.firstWord
        · simp [same, Rule.whenever]
        · simp [same, Rule.whenever, bne_iff_ne.mpr (Ne.symm same)]

end Nesting

namespace Check

open Nesting

/-- A line says nothing about nesting exactly if its first word is in place. -/
theorem not_isNesting_findings_iff (config : Config) (line : Line) (state : State) :
    (∀ finding ∈ findings config line state, finding.isNesting = false) ↔
      (Rule.turnBlocks line.statement state.blocks).2 = [] := by
  constructor
  · intro silent
    apply List.eq_nil_iff_forall_not_mem.mpr
    intro finding reported
    have present : finding ∈ findings config line state := by
      simp only [findings, List.mem_append]
      exact .inr (.inr (.inr (.inl reported)))
    have nesting := Rule.isNesting_of_mem_turnBlocks finding reported
    rw [silent finding present] at nesting
    cases nesting
  · intro inPlace finding member
    rcases ordinary_of_mem_findings member with reported | ordinary
    · rw [inPlace] at reported
      cases reported
    · exact ordinary.2

/-- The machine reads the words of some lines to the end exactly if none of them is reported, and
then it holds the keywords of the blocks that are still open. -/
theorem read_blockWords_eq_some_iff (config : Config) {lines : List Line} {state : State}
    {final : List Text} (known : state.blocks.Known) :
    read (keywords state.blocks) (blockWords lines) = some final ↔
      (∀ report ∈ reports config lines state, report.2.isNesting = false) ∧
        keywords (after lines state).blocks = final := by
  induction lines generalizing state with
  | nil => simp [blockWords, Nesting.read, reports]
  | cons line rest ih =>
    have here := not_isNesting_findings_iff config line state
    have there := ih (advance_known line.statement known)
    rw [read_turnBlocks known]
    simp only [reports, List.forall_mem_append, List.forall_mem_map, here, after_cons]
    by_cases inPlace : (Rule.turnBlocks line.statement state.blocks).2 = []
    · simp only [inPlace, ↓reduceIte, true_and]
      exact there
    · simp only [inPlace, ↓reduceIte, false_and, reduceCtorEq]

end Check

/-! ## Reports on nesting -/

/-- A diagnostic whose message has one of the three forms of reports on nesting. -/
def Diagnostic.ReportsNesting (diagnostic : Diagnostic) : Prop :=
  (∃ closer : Text, diagnostic.message = "Unexpected " ++ closer ++ " without matching opening") ∨
  (∃ expected found : Text,
    diagnostic.message = "Expected " ++ expected ++ " but found " ++ found) ∨
  (∃ opener closer : Text, diagnostic.message = "Unmatched " ++ opener ++ " - missing " ++ closer)

namespace Finding

theorem isNesting_eq (finding : Finding) :
    finding.isNesting = (finding.opening == "Unexpected " || finding.opening == "Expected " ||
      finding.opening == "Unmatched ") := by
  unfold opening isNesting
  cases finding <;> dsimp only <;> (repeat rw [String.toList_ofList]) <;> rfl

end Finding

namespace Check

/-- The message of a report has a form of reports on nesting exactly if its finding is one. -/
theorem reportsNesting_worded_iff {report : Int × Finding} :
    (worded report).ReportsNesting ↔ report.2.isNesting = true := by
  constructor
  · -- Each form begins with one entry of the table of beginnings.
    have opens (entry : Text × Option (Severity × Text)) {rest : Text}
        (member : entry ∈ Finding.openings) (message : report.2.message = entry.1 ++ rest) :
        report.2.opening = entry.1 := by
      have begins : report.2.message.startsWith entry.1 = true := by
        rw [message]
        exact List.isPrefixOf_iff_prefix.mpr (List.prefix_append ..)
      exact congrArg Prod.fst (Finding.opening_eq_of_startsWith member begins)
    rw [Finding.isNesting_eq]
    rintro (⟨closer, message⟩ | ⟨expected, found, message⟩ | ⟨opener, closer, message⟩)
    · have opening := opens ("Unexpected ", some (.error, "E020"))
        (by simp only [Finding.openings, List.mem_cons, true_or, or_true])
        (message.trans (List.append_assoc ..))
      rw [opening, beq_self_eq_true, Bool.true_or, Bool.true_or]
    · have opening := opens ("Expected ", some (.error, "E020"))
        (by simp only [Finding.openings, List.mem_cons, true_or, or_true])
        (message.trans ((List.append_assoc ..).trans (List.append_assoc ..)))
      rw [opening, beq_self_eq_true, Bool.or_true, Bool.true_or]
    · have opening := opens ("Unmatched ", some (.error, "E020"))
        (by simp only [Finding.openings, List.mem_cons, true_or, or_true])
        (message.trans ((List.append_assoc ..).trans (List.append_assoc ..)))
      rw [opening, beq_self_eq_true, Bool.or_true]
  · intro nesting
    obtain ⟨line, finding⟩ := report
    cases finding with
    | unexpectedCloser closer => exact .inl ⟨closer, rfl⟩
    | mismatchedCloser expected found => exact .inr (.inl ⟨expected, found, rfl⟩)
    | unmatchedOpener opener closer => exact .inr (.inr ⟨opener, closer, rfl⟩)
    | _ => cases nesting

/-- An outcome reports nothing on nesting exactly if no line does and no block remains open. -/
theorem not_reportsNesting_outcome_iff {config : Config} {source : Text}
    (content : Line.anyContent (Line.ofSource source) = true) :
    (∀ diagnostic ∈ (outcome config source).emitted, ¬ diagnostic.ReportsNesting) ↔
      (∀ report ∈ reports config (Line.contentOf source) {}, report.2.isNesting = false) ∧
        (after (Line.contentOf source) {}).blocks = [] := by
  simp only [outcome, content, ↓reduceIte, List.forall_mem_append, List.forall_mem_map,
    reportsNesting_worded_iff, Bool.not_eq_true]
  constructor
  · rintro ⟨⟨silent, unclosed⟩, -⟩
    refine ⟨silent, ?_⟩
    cases blocks : (after (Line.contentOf source) {}).blocks with
    | nil => rfl
    | cons frame rest =>
      have member : frame ∈ (after (Line.contentOf source) {}).blocks.unclosed := by
        rw [blocks]
        exact List.mem_reverse.mpr List.mem_cons_self
      cases unclosed frame member
  · rintro ⟨silent, closed⟩
    refine ⟨⟨silent, ?_⟩, ?_⟩
    · rw [closed]
      exact fun frame member => (List.not_mem_nil member).elim
    · intro diagnostic swept
      obtain ⟨report, rfl, ordinary⟩ := Sweep.worded_of_mem_all swept
      rw [reportsNesting_worded_iff, ordinary.2]
      exact Bool.false_ne_true

/-- The block check accepts exactly the well-nested programs. -/
theorem silent_on_nesting_iff_wellNested {config : Config} {source : Text} {check : Check}
    (content : Line.anyContent (Line.ofSource source) = true)
    (ran : run config source = .ok check) :
    (∀ diagnostic ∈ check.diagnostics, ¬ diagnostic.ReportsNesting) ↔
      Nesting.WellNested (Nesting.blockWords (Line.contentOf source)) := by
  obtain ⟨rfl, -⟩ := run_eq_ok ran
  simp only [mem_diagnostics_iff]
  rw [not_reportsNesting_outcome_iff content, Nesting.wellNested_iff_read]
  have reading : Nesting.read [] (Nesting.blockWords (Line.contentOf source)) = some [] ↔
      (∀ report ∈ reports config (Line.contentOf source) {}, report.2.isNesting = false) ∧
        Nesting.keywords (after (Line.contentOf source) {}).blocks = [] :=
    read_blockWords_eq_some_iff config start_known
  rw [reading, Nesting.keywords, List.map_eq_nil_iff]

/-- Two blocks that cross are reported, although each word has a partner. -/
theorem crossed_blocks_reported :
    Line.anyContent (Line.ofSource "REPEAT\nWHILE x\nUNTIL y\nENDWHILE") = true ∧
      ∃ check, run {} "REPEAT\nWHILE x\nUNTIL y\nENDWHILE" = .ok check ∧
        ∃ diagnostic ∈ check.diagnostics, diagnostic.ReportsNesting := by
  have content : Line.anyContent (Line.ofSource "REPEAT\nWHILE x\nUNTIL y\nENDWHILE") = true := by
    decide
  have crossed : Nesting.read []
      (Nesting.blockWords (Line.contentOf "REPEAT\nWHILE x\nUNTIL y\nENDWHILE")) = none := by
    decide
  obtain ⟨check, ran⟩ : ∃ check, run {} "REPEAT\nWHILE x\nUNTIL y\nENDWHILE" = .ok check := ⟨_, rfl⟩
  refine ⟨content, check, ran, ?_⟩
  apply Classical.byContradiction
  intro silent
  have nested := (silent_on_nesting_iff_wellNested content ran).mp
    fun diagnostic member reported => silent ⟨diagnostic, member, reported⟩
  rw [Nesting.wellNested_iff_read, crossed] at nested
  cases nested

end Check

end PseudoLint
